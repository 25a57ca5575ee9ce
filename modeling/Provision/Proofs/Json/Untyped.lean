import Provision.Proofs.Json.Decoded
import Provision.Proofs.Json.Number

/-! # What is read as a value of any type

A value that is read where any is accepted has integers of 64 bits only, and objects whose members are sorted
by name. Nowhere in it is an object with nothing but the member that stands for the value of a text.
-/

namespace Provision.Json

open Reader

namespace Reader

variable {α β : Type} {P Q : α → Prop} {R : β → Prop}

/-- All that the reader accepts is read as a value with the property. -/
def Yields (P : α → Prop) (reader : Reader α) : Prop :=
  ∀ text value rest, reader text = .ok (value, rest) → P value

theorem Refuses.yields {reader : Reader α} (refuses : Refuses reader) : Yields P reader :=
  fun text _ _ read => absurd read (refuses text _)

theorem yields_pure {value : α} (holds : P value) : Yields P (pure value) := by
  rintro _ _ _ ⟨⟩
  exact holds

theorem Yields.imp {reader : Reader α} (yields : Yields P reader) (imp : ∀ value, P value → Q value) :
    Yields Q reader :=
  fun text value rest read => imp value (yields text value rest read)

theorem Yields.bind {first : Reader α} {next : α → Reader β} (yields : Yields P first)
    (later : ∀ a, P a → Yields R (next a)) : Yields R (first >>= next) := by
  intro text value rest read
  obtain ⟨a, mid, front, read⟩ := bind_eq_ok read
  exact later a (yields text a mid front) mid value rest read

theorem Yields.after {next : α → Reader β} (later : ∀ a, Yields R (next a)) (first : Reader α) :
    Yields R (first >>= next) :=
  Yields.bind (P := fun _ => True) (fun _ _ _ _ => trivial) fun a _ => later a

theorem Yields.placed {reader : Reader α} (yields : Yields P reader) : Yields P (placed reader) :=
  fun text value rest read => yields text value rest (placed_eq_ok read)

theorem Yields.closing {content : Reader α} (yields : Yields P content) (ending : Reader Unit) :
    Yields P (closing content ending) := by
  intro text value rest read
  obtain ⟨mid, read⟩ := closing_eq_ok read
  exact yields text value mid read

end Reader

theorem Reader.Yields.expecting {α : Type} {P : α → Prop} {reader : Reader α} (yields : Yields P reader)
    (expected : String) (wanted : UInt8 → Bool) : Yields P (expecting expected wanted reader) := by
  intro text value rest read
  obtain ⟨b, more, -, read⟩ := expecting_eq_ok read
  exact yields _ value rest read

theorem Reader.Yields.nested {α : Type} {P : α → Prop} {container : Nat → Reader α}
    (yields : ∀ depth, Yields P (container depth)) (depth : Nat) : Yields P (nested depth container) := by
  cases depth with
  | zero => exact (refuses_stopAhead _).yields
  | succ depth => exact yields depth

theorem yields_readItems {P : Value → Prop} {item : Reader Value} (yields : Yields P item) (steps : Nat)
    (isFirst : Bool) : Yields (fun items => ∀ item ∈ items, P item) (readItems item steps isFirst) := by
  induction steps generalizing isFirst with
  | zero =>
      intro text value rest read
      cases read
  | succ steps ih =>
      rw [readItems]
      refine .after (fun more => ?_) _
      split
      · refine yields.bind fun value holds => (ih false).bind fun values all => yields_pure ?_
        exact List.forall_mem_cons.mpr ⟨holds, all⟩
      · exact yields_pure nofun

theorem yields_readMembers {P : Value → Prop} {member : Reader Value} (yields : Yields P member) (steps : Nat)
    (isFirst : Bool) :
    Yields (fun members => ∀ member ∈ members, P member.2) (readMembers member steps isFirst) := by
  induction steps generalizing isFirst with
  | zero =>
      intro text value rest read
      cases read
  | succ steps ih =>
      rw [readMembers]
      refine .after (fun more => ?_) _
      split
      · refine .after (fun name => .after (fun _ => ?_) _) _
        refine yields.bind fun value holds => (ih false).bind fun values all => yields_pure ?_
        exact List.forall_mem_cons.mpr ⟨holds, all⟩
      · exact yields_pure nofun

/-! ## Numbers -/

namespace Number

/-- If the number is an integer, it fits into 64 bits. -/
def Fits (number : Number) : Prop := ∀ i, number.toInt? = some i → Fits64 i

theorem fits_float (x : Float) : Fits (.float x) := nofun

theorem yields_ofScaled (s : Scaled) (positive : Bool) : Yields Fits (ofScaled s positive) := by
  rw [ofScaled]
  split
  · exact yields_pure (fits_float _)
  · intro text value rest read
    cases read

theorem yields_readExponentDigits (positive : Bool) (s : Scaled) (raises : Bool) :
    Yields Fits (readExponentDigits positive s raises) := by
  intro text number rest read
  cases text with
  | nil => cases read
  | cons d text =>
      rw [readExponentDigits] at read
      split at read
      next =>
        dsimp only at read
        split at read
        next =>
          split at read <;> cases read
          exact fits_float _
        next => exact yields_ofScaled _ _ _ _ _ read
      next => cases read

theorem yields_readExponent (positive : Bool) (s : Scaled) : Yields Fits (readExponent positive s) := by
  intro text number rest read
  cases text with
  | nil => cases read
  | cons b text =>
      rw [readExponent] at read
      split at read
      · exact yields_readExponentDigits _ _ _ _ _ _ read
      · split at read <;> exact yields_readExponentDigits _ _ _ _ _ _ read

theorem yields_readAfterFraction (positive : Bool) (s : Scaled) :
    Yields Fits (readAfterFraction positive s) := by
  intro text number rest read
  cases text with
  | nil => exact yields_ofScaled _ _ _ _ _ read
  | cons b text =>
      rw [readAfterFraction] at read
      split at read
      · exact yields_readExponent _ _ _ _ _ read
      · exact yields_ofScaled _ _ _ _ _ read

theorem yields_ofWhole (positive : Bool) (whole : Bytes) : Yields Fits (ofWhole positive whole) := by
  rw [ofWhole]
  split
  next natural =>
    refine yields_pure ?_
    rintro _ ⟨⟩
    have high := natural.2
    constructor <;> omega
  next =>
    split
    next negative =>
      refine yields_pure ?_
      rintro _ ⟨⟩
      have low := negative.2.2
      constructor <;> omega
    next => exact yields_ofScaled _ _

theorem yields_readAfterWhole (positive : Bool) (whole : Bytes) :
    Yields Fits (readAfterWhole positive whole) := by
  intro text number rest read
  cases text with
  | nil => exact yields_ofWhole _ _ _ _ _ read
  | cons b text =>
      rw [readAfterWhole] at read
      split at read
      next =>
        dsimp only at read
        split at read
        next => split at read <;> cases read
        next => exact yields_readAfterFraction _ _ _ _ _ read
      next =>
        split at read
        · exact yields_readExponent _ _ _ _ _ read
        · exact yields_ofWhole _ _ _ _ _ read

theorem yields_readUnsigned (positive : Bool) : Yields Fits (readUnsigned positive) := by
  intro text number rest read
  cases text with
  | nil => cases read
  | cons b text =>
      rw [readUnsigned] at read
      split at read
      next =>
        split at read
        · cases read
        · exact yields_readAfterWhole _ _ _ _ _ read
      next =>
        split at read
        · exact yields_readAfterWhole _ _ _ _ _ read
        · cases read

theorem yields_read : Yields Fits read := by
  intro text number rest read
  cases text with
  | nil => cases read
  | cons b text =>
      rw [Number.read] at read
      split at read <;> exact yields_readUnsigned _ _ _ _ read

end Number

/-! ## Objects that are sorted by name -/

/-- The members are in the order of their names, and no two have one name. -/
def Sorted (members : List (String × Value)) : Prop :=
  members.Pairwise fun first second => first.1 < second.1

namespace Value

variable {name : String} {value : Value} {members front : List (String × Value)} {other : String × Value}

theorem mem_insertMember (present : other ∈ insertMember name value members) :
    other = (name, value) ∨ other ∈ members := by
  induction members with
  | nil => exact .inl (List.mem_singleton.mp present)
  | cons first members ih =>
      obtain ⟨n, v⟩ := first
      rw [insertMember] at present
      split at present
      · exact List.mem_cons.mp present
      · split at present
        · exact (List.mem_cons.mp present).imp_right (List.mem_cons_of_mem _)
        · rcases List.mem_cons.mp present with rfl | later
          · exact .inr List.mem_cons_self
          · exact (ih later).imp_right (List.mem_cons_of_mem _)

theorem sorted_insertMember (sorted : Sorted members) : Sorted (insertMember name value members) := by
  induction members with
  | nil => exact List.pairwise_singleton _ _
  | cons first members ih =>
      obtain ⟨n, v⟩ := first
      obtain ⟨least, rest⟩ := List.pairwise_cons.mp sorted
      rw [insertMember]
      split
      next before =>
        refine List.pairwise_cons.mpr ⟨?_, sorted⟩
        intro later member
        rcases List.mem_cons.mp member with rfl | member
        · exact before
        · exact String.lt_trans before (least later member)
      next notBefore =>
        split
        next same =>
          subst same
          exact List.pairwise_cons.mpr ⟨least, rest⟩
        next different =>
          refine List.pairwise_cons.mpr ⟨fun later member => ?_, ih rest⟩
          rcases mem_insertMember member with rfl | member
          · exact Std.lt_of_le_of_ne (String.not_lt.mp notBefore) (Ne.symm different)
          · exact least later member

theorem names_insertMember (asked : String) :
    asked ∈ (insertMember name value members).map Prod.fst ↔ asked = name ∨ asked ∈ members.map Prod.fst := by
  induction members with
  | nil => simp [insertMember]
  | cons first members ih =>
      obtain ⟨n, v⟩ := first
      rw [insertMember]
      split
      · simp
      · split
        next same => simp [same]
        next => rw [List.map_cons, List.mem_cons, ih, List.map_cons, List.mem_cons, or_left_comm]

/-- Members that are put, one after the other, among those that are in front. -/
def insertMembers (front members : List (String × Value)) : List (String × Value) :=
  members.foldl (fun sorted member => insertMember member.1 member.2 sorted) front

theorem insertMembers_cons (first : String × Value) : insertMembers front (first :: members) =
    insertMembers (insertMember first.1 first.2 front) members := rfl

theorem ofMembers_eq (members : List (String × Value)) : ofMembers members = object (insertMembers [] members) :=
  rfl

theorem sorted_insertMembers (sorted : Sorted front) : Sorted (insertMembers front members) := by
  induction members generalizing front with
  | nil => exact sorted
  | cons first members ih => exact ih (sorted_insertMember sorted)

theorem mem_insertMembers (present : other ∈ insertMembers front members) : other ∈ front ∨ other ∈ members := by
  induction members generalizing front with
  | nil => exact .inl present
  | cons first members ih =>
      rcases ih present with inFront | later
      · rcases mem_insertMember inFront with rfl | inFront
        · exact .inr List.mem_cons_self
        · exact .inl inFront
      · exact .inr (List.mem_cons_of_mem _ later)

theorem names_insertMembers (asked : String) : asked ∈ (insertMembers front members).map Prod.fst ↔
    asked ∈ front.map Prod.fst ∨ asked ∈ members.map Prod.fst := by
  induction members generalizing front with
  | nil => simp [insertMembers]
  | cons first members ih =>
      rw [insertMembers_cons, ih, names_insertMember, List.map_cons, List.mem_cons, or_assoc, or_left_comm]

/-- An object of some members is sorted, and has members of their names and no others. -/
theorem ofMembers_sorted (members : List (String × Value)) : ∃ sorted, ofMembers members = object sorted ∧
    Sorted sorted ∧ (∀ other ∈ sorted, other ∈ members) ∧
      ∀ asked, asked ∈ sorted.map Prod.fst ↔ asked ∈ members.map Prod.fst := by
  refine ⟨_, ofMembers_eq members, sorted_insertMembers .nil, fun other present => ?_, fun asked => ?_⟩
  · rcases mem_insertMembers present with inFront | present
    · cases inFront
    · exact present
  · rw [names_insertMembers]
    simp

theorem insertMember_last (least : ∀ other ∈ members, other.1 < name) :
    insertMember name value members = members ++ [(name, value)] := by
  induction members with
  | nil => rfl
  | cons first members ih =>
      obtain ⟨n, v⟩ := first
      have before : n < name := least _ List.mem_cons_self
      rw [insertMember, if_neg (String.not_lt.mpr (Std.le_of_lt before)),
        if_neg (Std.ne_of_lt before).symm,
        ih fun other member => least other (List.mem_cons_of_mem _ member), List.cons_append]

theorem insertMembers_sorted (sorted : Sorted (front ++ members)) :
    insertMembers front members = front ++ members := by
  induction members generalizing front with
  | nil => simp [insertMembers]
  | cons first members ih =>
      obtain ⟨-, -, least⟩ := List.pairwise_append.mp sorted
      have last : insertMember first.1 first.2 front = front ++ [first] :=
        insertMember_last fun other member => least other member first List.mem_cons_self
      have behind : front ++ [first] ++ members = front ++ first :: members := by simp
      rw [insertMembers_cons, last, ← behind]
      exact ih (behind ▸ sorted)

/-- An object of members that are sorted is made of them as they are. -/
theorem ofMembers_of_sorted (sorted : Sorted members) : ofMembers members = object members := by
  rw [ofMembers_eq, insertMembers_sorted (by simpa using sorted), List.nil_append]

end Value

/-! ## Values of any type -/

namespace Value

/-- The values of any type: what is not a raw part, with integers of 64 bits and objects sorted by name. -/
inductive Untyped : Value → Prop where
  | null : Untyped null
  | bool (b : Bool) : Untyped (bool b)
  | int {i : Int} (fits : Number.Fits64 i) : Untyped (int i)
  | float (x : Float) : Untyped (float x)
  | string (s : String) : Untyped (string s)
  | array {items : List Value} (all : ∀ item ∈ items, Untyped item) : Untyped (array items)
  | object {members : List (String × Value)} (sorted : Sorted members)
      (all : ∀ member ∈ members, Untyped member.2) : Untyped (object members)

/-- The values of any type that a text can stand for. -/
inductive Written : Value → Prop where
  | null : Written null
  | bool (b : Bool) : Written (bool b)
  | number {number : Number} (fits : number.Fits) : Written (ofNumber number)
  | string (s : String) : Written (string s)
  | array {items : List Value} (all : ∀ item ∈ items, Written item) : Written (array items)
  | empty : Written (object [])
  | object {name : String} {value : Value} {members : List (String × Value)} (other : name ≠ embeddingName)
      (first : Written value) (all : ∀ member ∈ members, Written member.2) :
      Written (ofMembers ((name, value) :: members))

theorem Written.untyped {value : Value} (written : Written value) : Untyped value := by
  induction written with
  | null => exact .null
  | bool b => exact .bool b
  | @number number fits =>
      cases number with
      | natural n => exact .int (fits n rfl)
      | negative n => exact .int (fits (-n) rfl)
      | float x => exact .float x
  | string s => exact .string s
  | array _ ih => exact .array ih
  | empty => exact .object List.Pairwise.nil nofun
  | @object name value members other first all ih ihs =>
      obtain ⟨sorted, same, inOrder, among, -⟩ := ofMembers_sorted ((name, value) :: members)
      rw [same]
      refine .object inOrder fun member present => ?_
      rcases List.mem_cons.mp (among member present) with rfl | later
      · exact ih
      · exact ihs member later

/-- What stands for the value of a text is not itself the value of a text. -/
theorem Written.not_embedding {value : Value} (written : Written value) (inner : Value) :
    value ≠ .object [(embeddingName, inner)] := by
  intro same
  cases written with
  | @number number => cases number <;> cases same
  | @object name value members other =>
      obtain ⟨sorted, made, -, -, names⟩ := ofMembers_sorted ((name, value) :: members)
      rw [made] at same
      cases same
      have only : name = embeddingName := by simpa using (names name).mpr List.mem_cons_self
      exact other only
  | _ => cases same

end Value

theorem yields_readAnyObject {member : Reader Value} {ofText : Bytes → Except Failure Value}
    (yields : Yields Value.Written member)
    (texts : ∀ text value, ofText text = .ok value → value.Written) :
    Yields Value.Written (readAnyObject member ofText) := by
  rw [readAnyObject]
  refine .after (fun _ => .closing (.after (fun more => ?_) _) _) _
  split
  next =>
    refine .after (fun name => .after (fun _ => ?_) _) _
    split
    next =>
      rw [readEmbedded]
      refine .after (fun text => ?_) _
      dsimp only
      split
      next value decoded => exact yields_pure (texts _ value decoded)
      next => exact (refuses_refuse _).yields
    next other =>
      refine yields.bind fun value first => .bind ?_ fun members all => yields_pure (.object other first all)
      exact fun text => yields_readMembers yields _ _ text
  next => exact yields_pure .empty

theorem yields_readAnyWith {ofText : Bytes → Except Failure Value} {inner : Option (Reader Value)}
    (texts : ∀ text value, ofText text = .ok value → value.Written)
    (deeper : ∀ reader, inner = some reader → Yields Value.Written reader) :
    Yields Value.Written (readAnyWith ofText inner) := by
  unfold readAnyWith
  refine .after (fun _ => .placed (.after (fun ahead => ?_) _)) _
  have word (word : Reader Unit) {value : Value} (written : value.Written) :
      Yields Value.Written (do advance; word; return value) :=
    .after (fun _ => .after (fun _ => yields_pure written) _) _
  cases ahead with
  | none => exact (refuses_stopAhead _).yields
  | some b =>
      dsimp only
      repeat' split
      · exact word _ .null
      · exact word _ (.bool true)
      · exact word _ (.bool false)
      · exact Number.yields_read.bind fun number fits => yields_pure (.number fits)
      · exact .after (fun _ => .after (fun s => yields_pure (.string s)) _) _
      · exact (refuses_stopAhead _).yields
      · have items := (fun text => yields_readItems (deeper _ rfl) (text.length + 1) true text : Yields _ _)
        refine .bind (.after (fun _ => .closing items _) _) fun items all => yields_pure (.array all)
      · exact (refuses_stopAhead _).yields
      · exact yields_readAnyObject (deeper _ rfl) texts
      · exact (refuses_stopAhead _).yields

theorem yields_readAnyTo {ofText : Bytes → Except Failure Value}
    (texts : ∀ text value, ofText text = .ok value → value.Written) (depth : Nat) :
    Yields Value.Written (readAnyTo ofText depth) := by
  induction depth with
  | zero => exact yields_readAnyWith texts nofun
  | succ depth ih =>
      refine yields_readAnyWith texts ?_
      rintro _ ⟨⟩
      exact ih

theorem written_of_readWhole {reader : Reader Value} {P : Value → Prop} (yields : Yields P reader)
    {text : Bytes} {value : Value} (read : readWhole reader text = .ok value) : P value := by
  rw [readWhole] at read
  split at read
  next => cases read
  next value rest same =>
    split at read <;> cases read
    exact yields _ _ _ same

theorem written_ofEmbedded (layers : Nat) (text : Bytes) (value : Value)
    (read : ofEmbedded layers text = .ok value) : value.Written := by
  induction layers generalizing text value with
  | zero => cases read
  | succ layers ih => exact written_of_readWhole (yields_readAnyTo ih _) read

theorem yields_readAny (depth : Nat) : Yields Value.Written (readAny depth) :=
  fun text => yields_readAnyTo (written_ofEmbedded text.length) depth text

end Provision.Json
