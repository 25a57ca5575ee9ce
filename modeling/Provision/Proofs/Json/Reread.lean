import Provision.Proofs.Json.Untyped

/-! # Which values are read back

A value of any type without raw parts and without numbers that are no integers, whose containers are not nested
too deeply, is printed so that it is read back. There is one exception. An object whose first member has the
name that marks the value of a text is taken for that value, and is never read back as what it was.
-/

namespace Provision.Json

open Reader

namespace Reader

variable {α β : Type} {reader : Reader α} {next : α → Reader β} {text mid rest : Bytes} {value : α}
  {result : Option α} {later : α → Option β}

/-- The reader takes a text, up to a rest, for a value, or refuses it if no value is told. -/
def Takes (reader : Reader α) (text rest : Bytes) (result : Option α) : Prop :=
  (reader text).toOption = result.map (·, rest)

theorem takes_of_ok (read : reader text = .ok (value, rest)) : Takes reader text rest (some value) :=
  congrArg Except.toOption read

theorem takes_none_iff : Takes reader text rest none ↔ ∀ read, reader text ≠ .ok read := by
  rw [Takes]
  cases reader text <;> simp [Except.toOption]

theorem Takes.ok_or_error (takes : Takes reader text rest result) :
    (∃ value, reader text = .ok (value, rest) ∧ result = some value) ∨
      ∃ failure, reader text = .error failure ∧ result = none := by
  rw [Takes] at takes
  cases read : reader text with
  | error failure =>
      rw [read] at takes
      exact .inr ⟨failure, rfl, Option.map_eq_none_iff.mp takes.symm⟩
  | ok both =>
      obtain ⟨value, left⟩ := both
      rw [read] at takes
      obtain ⟨_, rfl, same⟩ := Option.map_eq_some_iff.mp takes.symm
      cases same
      exact .inl ⟨_, rfl, rfl⟩

theorem Takes.refused (first : Takes reader text mid none) (next : α → Reader β) :
    Takes (reader >>= next) text rest none := by
  rcases first.ok_or_error with ⟨_, -, same⟩ | ⟨failure, read, -⟩
  · cases same
  · refine takes_none_iff.mpr fun both accepted => ?_
    obtain ⟨a, mid, front, -⟩ := bind_eq_ok accepted
    cases read.symm.trans front

theorem Takes.bind (first : Takes reader text mid result)
    (second : ∀ a, result = some a → Takes (next a) mid rest (later a)) :
    Takes (reader >>= next) text rest (result.bind later) := by
  cases result with
  | none => exact first.refused next
  | some a =>
      rcases first.ok_or_error with ⟨_, read, ⟨⟩⟩ | ⟨_, -, same⟩
      · rw [Takes, bind_of_ok read]
        exact second a rfl
      · cases same

theorem Takes.placed (takes : Takes reader text rest result) : Takes (placed reader) text rest result := by
  rcases takes.ok_or_error with ⟨value, read, rfl⟩ | ⟨failure, read, rfl⟩
  · exact takes_of_ok (by rw [Reader.placed, read])
  · exact takes_none_iff.mpr fun both accepted => by cases read.symm.trans (placed_eq_ok accepted)

theorem Takes.closing {ending : Reader Unit} (takes : Takes reader text mid result)
    (ends : ending mid = .ok ((), rest)) : Takes (closing reader ending) text rest result := by
  rcases takes.ok_or_error with ⟨value, read, rfl⟩ | ⟨failure, read, rfl⟩
  · exact takes_of_ok (closing_of_ok read ends)
  · refine takes_none_iff.mpr fun both accepted => ?_
    obtain ⟨mid, content⟩ := closing_eq_ok accepted
    cases read.symm.trans content

theorem Takes.unclosed {ending : Reader Unit} (takes : Takes reader text mid result)
    (ends : ∀ read, ending mid ≠ .ok read) : Takes (Reader.closing reader ending) text rest none := by
  refine takes_none_iff.mpr fun both accepted => ?_
  rcases takes.ok_or_error with ⟨value, read, rfl⟩ | ⟨failure, read, rfl⟩
  · rw [Reader.closing, read] at accepted
    dsimp only at accepted
    split at accepted
    next left ended => exact ends _ ended
    next => cases accepted
  · obtain ⟨mid, content⟩ := closing_eq_ok accepted
    cases read.symm.trans content

end Reader

/-- What is read of the compact form of a value, whatever stands behind it: the value, just if it is clear. -/
def Recovers (reader : Reader Value) (value : Value) (clear : Prop) : Prop :=
  ∀ rest, Number.Bounded rest →
    ∃ result, Takes reader (value.print ++ rest) rest result ∧ (result = some value ↔ clear)

theorem recovers_of_ok {reader : Reader Value} {value : Value} {clear : Prop} (holds : clear)
    (read : ∀ rest, Number.Bounded rest → reader (value.print ++ rest) = .ok (value, rest)) :
    Recovers reader value clear :=
  fun rest bounded => ⟨some value, takes_of_ok (read rest bounded), fun _ => holds, fun _ => rfl⟩

/-! ## Values that are written and read without loss -/

namespace Value

/-- A value without raw parts whose numbers are integers and whose containers are nested to a depth at most. -/
inductive Plain : Nat → Value → Prop where
  | null {depth : Nat} : Plain depth null
  | bool {depth : Nat} (b : Bool) : Plain depth (bool b)
  | int {depth : Nat} (i : Int) : Plain depth (int i)
  | string {depth : Nat} (s : String) : Plain depth (string s)
  | array {depth : Nat} {items : List Value} (all : ∀ item ∈ items, Plain depth item) :
      Plain (depth + 1) (array items)
  | object {depth : Nat} {members : List (String × Value)} (all : ∀ member ∈ members, Plain depth member.2) :
      Plain (depth + 1) (object members)

/-- No object in the value has the member in front that marks the value of a text. -/
inductive Clear : Value → Prop where
  | null : Clear null
  | bool (b : Bool) : Clear (bool b)
  | int (i : Int) : Clear (int i)
  | float (x : Float) : Clear (float x)
  | string (s : String) : Clear (string s)
  | array {items : List Value} (all : ∀ item ∈ items, Clear item) : Clear (array items)
  | object {members : List (String × Value)} (apart : (members.map Prod.fst).head? ≠ some embeddingName)
      (all : ∀ member ∈ members, Clear member.2) : Clear (object members)
  | raw (text : Bytes) : Clear (raw text)

theorem clear_array_iff {items : List Value} : (array items).Clear ↔ ∀ item ∈ items, item.Clear :=
  ⟨fun clear => by cases clear; assumption, .array⟩

theorem clear_object_iff {members : List (String × Value)} : (object members).Clear ↔
    (members.map Prod.fst).head? ≠ some embeddingName ∧ ∀ member ∈ members, member.2.Clear :=
  ⟨fun clear => by cases clear; exact ⟨‹_›, ‹_›⟩, fun both => .object both.1 both.2⟩

theorem Plain.mono {depth deeper : Nat} {value : Value} (plain : Plain depth value) (le : depth ≤ deeper) :
    Plain deeper value := by
  induction plain generalizing deeper with
  | null => exact .null
  | bool b => exact .bool b
  | int i => exact .int i
  | string s => exact .string s
  | array _ ih =>
      obtain ⟨deeper, rfl⟩ := Nat.exists_eq_succ_of_ne_zero (Nat.ne_zero_of_lt le)
      exact .array fun item member => ih item member (Nat.le_of_succ_le_succ le)
  | object _ ih =>
      obtain ⟨deeper, rfl⟩ := Nat.exists_eq_succ_of_ne_zero (Nat.ne_zero_of_lt le)
      exact .object fun item member => ih item member (Nat.le_of_succ_le_succ le)

/-- The first byte of a value tells its type. -/
inductive Lead : Value → UInt8 → Prop where
  | null : Lead null 0x6e
  | true' : Lead (bool true) 0x74
  | false' : Lead (bool false) 0x66
  | int {i : Int} {b : UInt8} (starts : Number.isStart b = true) : Lead (int i) b
  | string {s : String} : Lead (string s) Quoted.quoteByte
  | array {items : List Value} : Lead (array items) 0x5b
  | object {members : List (String × Value)} : Lead (object members) 0x7b

theorem isStart_ne {b c : UInt8} (starts : Number.isStart b = true) (other : Number.isStart c = false) :
    b ≠ c := by
  rintro rfl
  simp [starts] at other

theorem isStart_unblank {b : UInt8} (starts : Number.isStart b = true) : isBlank b = false := by
  simp [isBlank, isStart_ne starts (c := 0x20) rfl, isStart_ne starts (c := 0x09) rfl,
    isStart_ne starts (c := 0x0a) rfl, isStart_ne starts (c := 0x0d) rfl]

theorem Lead.unblank {value : Value} {b : UInt8} (lead : Lead value b) : isBlank b = false := by
  cases lead with
  | int starts => exact isStart_unblank starts
  | _ => rfl

theorem Lead.ne_bracket {value : Value} {b : UInt8} (lead : Lead value b) : b ≠ 0x5d := by
  cases lead with
  | int starts => exact isStart_ne starts rfl
  | _ => decide

theorem Lead.string_of_quote {value : Value} (lead : Lead value Quoted.quoteByte) :
    ∃ s, value = .string s := by
  generalize same : Quoted.quoteByte = b at lead
  cases lead with
  | int starts => exact absurd same.symm (isStart_ne starts rfl)
  | string => exact ⟨_, rfl⟩
  | _ => cases same

theorem Lead.null_of_n {value : Value} (lead : Lead value 0x6e) : value = .null := by
  generalize same : (0x6e : UInt8) = b at lead
  cases lead with
  | int starts => exact absurd same.symm (isStart_ne starts rfl)
  | null => rfl
  | _ => cases same

theorem Plain.lead {depth : Nat} {value : Value} (plain : Plain depth value) :
    ∃ b more, value.print = b :: more ∧ Lead value b := by
  cases plain with
  | null => exact ⟨_, _, rfl, .null⟩
  | bool b =>
      cases b with
      | true => exact ⟨_, _, rfl, .true'⟩
      | false => exact ⟨_, _, rfl, .false'⟩
  | int i =>
      obtain ⟨b, more, same, starts⟩ := (Number.literal_ofInt i).start
      exact ⟨b, more, same, .int starts⟩
  | string s => exact ⟨_, _, rfl, .string⟩
  | array => exact ⟨_, _, rfl, .array⟩
  | object => exact ⟨_, _, rfl, .object⟩

end Value

/-! ## Arrays -/

def furtherItems : List Value → Bytes
  | [] => []
  | items => 0x2c :: Value.printItems items

theorem furtherItems_cons (item : Value) (items : List Value) :
    furtherItems (item :: items) = 0x2c :: Value.printItems (item :: items) := rfl

theorem printItems_cons (item : Value) (items : List Value) :
    Value.printItems (item :: items) = item.print ++ furtherItems items := by
  cases items with
  | nil => simp [Value.printItems, furtherItems]
  | cons => simp [Value.printItems, furtherItems]

/-- What is left of a printed array in front of an item, behind another one or not. -/
def remainingItems (isFirst : Bool) (items : List Value) : Bytes :=
  if isFirst then Value.printItems items else furtherItems items

theorem nextItem_cons {isFirst : Bool} {item : Value} {items : List Value} {rest more : Bytes} {b : UInt8}
    (printed : item.print = b :: more) (lead : item.Lead b) :
    nextItem isFirst (remainingItems isFirst (item :: items) ++ rest) =
      .ok (true, item.print ++ (furtherItems items ++ rest)) := by
  have comma : isBlank 0x2c = false := rfl
  cases isFirst with
  | true => simp [remainingItems, printItems_cons, nextItem, printed, lead.unblank, lead.ne_bracket]
  | false =>
      simp [remainingItems, furtherItems, printItems_cons, nextItem, printed, lead.unblank, lead.ne_bracket,
        comma]

theorem nextItem_nil {isFirst : Bool} {rest : Bytes} :
    nextItem isFirst (remainingItems isFirst [] ++ 0x5d :: rest) = .ok (false, 0x5d :: rest) := by
  cases isFirst <;> simp [remainingItems, Value.printItems, furtherItems, nextItem, isBlank]

theorem bounded_furtherItems {items : List Value} {rest : Bytes} :
    Number.Bounded (furtherItems items ++ 0x5d :: rest) := by
  cases items <;> rintro _ ⟨⟩ <;> decide

theorem endList_cons (rest : Bytes) : endList (0x5d :: rest) = .ok ((), rest) := by
  simp [endList, isBlank, advance]

theorem length_printItems (items : List Value) : items.length ≤ (Value.printItems items).length + 1 := by
  induction items with
  | nil => exact Nat.zero_le _
  | cons item items ih =>
      cases items with
      | nil => simp
      | cons next items =>
          rw [printItems_cons, furtherItems_cons]
          simp only [List.length_cons, List.length_append] at ih ⊢
          omega

section Containers

variable {reader : Reader Value} {clear : Value → Prop} {depth : Nat}

theorem takes_readItems {items : List Value} (plain : ∀ item ∈ items, item.Plain depth)
    (all : ∀ item ∈ items, Recovers reader item (clear item)) {steps : Nat} (enough : items.length ≤ steps)
    (isFirst : Bool) (rest : Bytes) :
    ∃ results, Takes (readItems reader (steps + 1) isFirst) (remainingItems isFirst items ++ 0x5d :: rest)
        (0x5d :: rest) results ∧ (results = some items ↔ ∀ item ∈ items, clear item) := by
  induction items generalizing steps isFirst with
  | nil =>
      refine ⟨some [], takes_of_ok ?_, by simp⟩
      rw [readItems, bind_of_ok nextItem_nil]
      rfl
  | cons item items ih =>
      obtain ⟨steps, rfl⟩ := Nat.exists_eq_succ_of_ne_zero (Nat.ne_zero_of_lt enough)
      obtain ⟨b, more, printed, lead⟩ := (plain item List.mem_cons_self).lead
      obtain ⟨first, takes, same⟩ := all item List.mem_cons_self _ bounded_furtherItems
      obtain ⟨others, takesOthers, sameOthers⟩ := ih
        (fun other member => plain other (List.mem_cons_of_mem _ member))
        (fun other member => all other (List.mem_cons_of_mem _ member)) (Nat.le_of_succ_le_succ enough) false
      refine ⟨first.bind fun value => others.bind fun values => some (value :: values), ?_, ?_⟩
      · rw [readItems, Takes, bind_of_ok (nextItem_cons printed lead)]
        exact takes.bind fun value _ => takesOthers.bind fun values _ => takes_of_ok rfl
      · simp [Option.bind_eq_some_iff, same, sameOthers]

theorem recovers_array {items : List Value} (plain : ∀ item ∈ items, item.Plain depth)
    (all : ∀ item ∈ items, Recovers reader item (clear item)) :
    Recovers (do return .array (← readList reader)) (.array items) (∀ item ∈ items, clear item) := by
  intro rest _
  have enough : items.length ≤ (Value.printItems items ++ 0x5d :: rest).length := by
    have := length_printItems items
    simp only [List.length_append, List.length_cons]
    omega
  obtain ⟨results, takes, same⟩ := takes_readItems plain all enough true rest
  have text : (Value.array items).print ++ rest = 0x5b :: (Value.printItems items ++ 0x5d :: rest) := by
    simp [Value.print]
  have content : Takes (fun text => readItems reader (text.length + 1) true text)
      (Value.printItems items ++ 0x5d :: rest) (0x5d :: rest) results := takes
  have list : Takes (readList reader) ((Value.array items).print ++ rest) rest results := by
    rw [text]
    exact content.closing (endList_cons rest)
  refine ⟨results.bind fun items => some (.array items), list.bind fun items _ => takes_of_ok rfl, ?_⟩
  simpa [Option.bind_eq_some_iff] using same

/-! ## Objects -/

theorem further_cons (member : String × Value) (members : List (String × Value)) :
    further (member :: members) = 0x2c :: Value.printMembers (member :: members) := rfl

theorem length_further (members : List (String × Value)) : members.length ≤ (further members).length := by
  induction members with
  | nil => exact Nat.zero_le _
  | cons member members ih =>
      rw [further_cons, printMembers_cons]
      simp only [List.length_cons, List.length_append]
      omega

theorem length_printMembers (members : List (String × Value)) :
    members.length ≤ (Value.printMembers members).length := by
  cases members with
  | nil => exact Nat.zero_le _
  | cons member members =>
      have := length_further members
      rw [printMembers_cons]
      simp only [List.length_cons, List.length_append]
      omega

theorem takes_readMembers {members : List (String × Value)}
    (all : ∀ member ∈ members, Recovers reader member.2 (clear member.2)) {steps : Nat}
    (enough : members.length ≤ steps) (isFirst : Bool) (rest : Bytes) :
    ∃ results, Takes (readMembers reader (steps + 1) isFirst) (remaining isFirst members ++ 0x7d :: rest)
        (0x7d :: rest) results ∧
      (∀ values, results = some values → values.map Prod.fst = members.map Prod.fst) ∧
      (results = some members ↔ ∀ member ∈ members, clear member.2) := by
  induction members generalizing steps isFirst with
  | nil =>
      refine ⟨some [], takes_of_ok ?_, ?_, by simp⟩
      · rw [readMembers, bind_of_ok nextMember_nil]
        rfl
      · rintro _ ⟨⟩
        rfl
  | cons member members ih =>
      obtain ⟨name, value⟩ := member
      obtain ⟨steps, rfl⟩ := Nat.exists_eq_succ_of_ne_zero (Nat.ne_zero_of_lt enough)
      obtain ⟨first, takes, same⟩ := all (name, value) List.mem_cons_self _ bounded_further
      obtain ⟨others, takesOthers, names, sameOthers⟩ := ih
        (fun other member => all other (List.mem_cons_of_mem _ member)) (Nat.le_of_succ_le_succ enough) false
      refine ⟨first.bind fun value => others.bind fun values => some ((name, value) :: values), ?_, ?_, ?_⟩
      · rw [readMembers, Takes, bind_of_ok nextMember_cons]
        simp only [↓reduceIte, bind_of_ok (readName_encode _ _), bind_of_ok (colon_cons _)]
        exact takes.bind fun value _ => takesOthers.bind fun values _ => takes_of_ok rfl
      · intro values made
        obtain ⟨value, -, made⟩ := Option.bind_eq_some_iff.mp made
        obtain ⟨values, known, made⟩ := Option.bind_eq_some_iff.mp made
        cases made
        simp [names values known]
      · simp [Option.bind_eq_some_iff, same, sameOthers]

end Containers

theorem readString_encode (expected s : String) (rest : Bytes) :
    readString expected (Quoted.encode s ++ rest) = .ok (s, rest) := by
  have read : (do advance; Quoted.read : Reader String) (Quoted.encode s ++ rest) = .ok (s, rest) := by
    simp [Quoted.encode, Quoted.read_escape]
  exact expecting_of_ok rfl rfl read

theorem takes_expecting {α : Type} {expected : String} {wanted : UInt8 → Bool} {reader : Reader α} {b : UInt8}
    {text rest : Bytes} {result : Option α} (blank : isBlank b = false) (starts : wanted b = true)
    (takes : Takes reader (b :: text) rest result) :
    Takes (expecting expected wanted reader) (b :: text) rest result := by
  have same : expecting expected wanted reader (b :: text) = placed reader (b :: text) := by
    simp [expecting, blank, placed, starts]
  rw [Takes, same]
  exact takes.placed

theorem takes_expecting_other {α : Type} {expected : String} {wanted : UInt8 → Bool} {reader : Reader α}
    {b : UInt8} (blank : isBlank b = false) (other : wanted b = false) (text rest : Bytes) :
    Takes (expecting expected wanted reader) (b :: text) rest none := by
  refine takes_none_iff.mpr fun read accepted => ?_
  rw [expecting, skipBlanks_bind, List.dropWhile_cons_of_neg (by simp [blank])] at accepted
  replace accepted := placed_eq_ok accepted
  simp only [peek?_bind, List.head?_cons, other, Bool.false_eq_true, ↓reduceIte] at accepted
  exact refuses_misfit _ _ _ accepted

theorem takes_readString_other {depth : Nat} {value : Value} (plain : value.Plain depth)
    (other : ∀ s, value ≠ .string s) (expected : String) (rest : Bytes) :
    Takes (readString expected) (value.print ++ rest) rest none := by
  obtain ⟨b, more, printed, lead⟩ := plain.lead
  have quote : b ≠ Quoted.quoteByte := by
    rintro rfl
    obtain ⟨s, same⟩ := lead.string_of_quote
    exact other s same
  rw [printed, List.cons_append, readString]
  exact takes_expecting_other lead.unblank (by simpa using quote) _ _

section Objects

variable {reader : Reader Value} {ofText : Bytes → Except Failure Value} {depth : Nat}

/-- What stands for the value of a text is read as a value of a text, or refused. -/
theorem takes_readEmbedded (ofText : Bytes → Except Failure Value) {value : Value}
    (plain : value.Plain depth) (rest : Bytes) :
    ∃ result, Takes (readEmbedded ofText) (value.print ++ rest) rest result ∧
      ∀ read, result = some read → ∃ text, ofText text = .ok read := by
  by_cases quoted : ∃ s, value = .string s
  · obtain ⟨s, rfl⟩ := quoted
    cases inner : ofText (Text.bytes s) with
    | ok read =>
        refine ⟨some read, takes_of_ok ?_, ?_⟩
        · rw [readEmbedded, Value.print, bind_of_ok (readString_encode _ s rest), inner]
          rfl
        · rintro _ ⟨⟩
          exact ⟨_, inner⟩
    | error failure =>
        refine ⟨none, takes_none_iff.mpr fun read accepted => ?_, fun _ none => by cases none⟩
        rw [readEmbedded, Value.print, bind_of_ok (readString_encode _ s rest), inner] at accepted
        cases accepted
  · rw [not_exists] at quoted
    refine ⟨none, ?_, fun _ none => by cases none⟩
    exact (takes_readString_other plain quoted _ rest).refused _

theorem endObject_further {member : String × Value} {members : List (String × Value)} {rest : Bytes}
    (read : Unit × Bytes) : endObject (further (member :: members) ++ 0x7d :: rest) ≠ .ok read := by
  simp [endObject, further, isBlank, stopAhead]

variable {name : String} {value : Value} {members : List (String × Value)}

theorem readAnyObject_cons {rest : Bytes} :
    readAnyObject reader ofText (0x7b :: (remaining true ((name, value) :: members) ++ rest)) =
      closing (if name = embeddingName then readEmbedded ofText
        else do
          let value ← reader
          let members ← fun text => readMembers reader (text.length + 1) false text
          return .ofMembers ((name, value) :: members))
        endObject (value.print ++ (further members ++ rest)) := by
  rw [readAnyObject, advance_bind, List.tail_cons, closing, closing, bind_of_ok nextMember_cons]
  simp only [↓reduceIte, bind_of_ok (readName_encode _ _), bind_of_ok (colon_cons _)]

/-- What is read of an object with the marking member in front is the value of a text, if nothing but the text is
    in the object. -/
theorem takes_marked
    (apart : ∀ text value inner, ofText text = .ok value → value ≠ .object [(embeddingName, inner)])
    (plain : value.Plain depth) (members : List (String × Value)) (rest : Bytes) :
    ∃ result, Takes (closing (readEmbedded ofText) endObject)
      (value.print ++ (further members ++ 0x7d :: rest)) rest result ∧
      result ≠ some (.object ((embeddingName, value) :: members)) := by
  obtain ⟨result, takes, ofTexts⟩ := takes_readEmbedded ofText plain (further members ++ 0x7d :: rest)
  cases members with
  | nil =>
      refine ⟨result, takes.closing (endObject_cons rest), fun same => ?_⟩
      obtain ⟨text, decoded⟩ := ofTexts _ same
      exact apart text _ value decoded rfl
  | cons next members =>
      refine ⟨none, takes.unclosed endObject_further, fun same => ?_⟩
      cases same

/-- The members that are read of an object have the names that were printed, so that they are sorted as well. -/
theorem takes_sorted (sorted : Sorted ((name, value) :: members))
    (all : ∀ member ∈ (name, value) :: members, Recovers reader member.2 member.2.Clear) (rest : Bytes) :
    ∃ result, Takes (closing (do
        let value ← reader
        let members ← fun text => readMembers reader (text.length + 1) false text
        return Value.ofMembers ((name, value) :: members)) endObject)
      (value.print ++ (further members ++ 0x7d :: rest)) rest result ∧
      (result = some (.object ((name, value) :: members)) ↔
        ∀ member ∈ (name, value) :: members, member.2.Clear) := by
  obtain ⟨first, takes, same⟩ := all (name, value) List.mem_cons_self _ bounded_further
  have enough : members.length ≤ (further members ++ 0x7d :: rest).length := by
    rw [List.length_append]
    exact Nat.le_add_right_of_le (length_further members)
  obtain ⟨others, takesOthers, names, sameOthers⟩ := takes_readMembers
    (fun other member => all other (List.mem_cons_of_mem _ member)) enough false rest
  have takesRest : Takes (fun text => readMembers reader (text.length + 1) false text)
      (further members ++ 0x7d :: rest) (0x7d :: rest) others := takesOthers
  have made : ∀ read values, others = some values →
      (Value.ofMembers ((name, read) :: values) = .object ((name, value) :: members) ↔
        read = value ∧ values = members) := by
    intro read values known
    have inOrder : Sorted ((name, read) :: values) := by
      have same : ((name, read) :: values).map Prod.fst = ((name, value) :: members).map Prod.fst := by
        simp [names values known]
      exact List.pairwise_map.mp (same ▸ List.pairwise_map.mpr sorted)
    rw [Value.ofMembers_of_sorted inOrder]
    simp
  refine ⟨first.bind fun value => others.bind fun members => some (.ofMembers ((name, value) :: members)),
    Takes.closing ?_ (endObject_cons rest), ?_⟩
  · exact takes.bind fun value _ => takesRest.bind fun members _ => takes_of_ok rfl
  · simp only [Option.bind_eq_some_iff, Option.some.injEq, List.forall_mem_cons, ← same, ← sameOthers]
    constructor
    · rintro ⟨read, one, values, known, same⟩
      obtain ⟨rfl, rfl⟩ := (made read values known).mp same
      exact ⟨one, known⟩
    · rintro ⟨one, known⟩
      exact ⟨value, one, members, known, (made value members known).mpr ⟨rfl, rfl⟩⟩

theorem recovers_readAnyObject (sorted : Sorted members)
    (apart : ∀ text value inner, ofText text = .ok value → value ≠ .object [(embeddingName, inner)])
    (plain : ∀ member ∈ members, member.2.Plain depth)
    (all : ∀ member ∈ members, Recovers reader member.2 member.2.Clear) :
    Recovers (readAnyObject reader ofText) (.object members) (Value.object members).Clear := by
  intro rest _
  have text : (Value.object members).print ++ rest =
      0x7b :: (remaining true members ++ 0x7d :: rest) := by simp [Value.print, remaining]
  rw [text, Value.clear_object_iff]
  cases members with
  | nil =>
      refine ⟨some (.object []), takes_of_ok ?_, by simp⟩
      rw [readAnyObject, advance_bind]
      refine closing_of_ok ?_ (endObject_cons rest)
      rw [List.tail_cons, bind_of_ok nextMember_nil]
      rfl
  | cons member members =>
      obtain ⟨name, value⟩ := member
      simp only [Takes, readAnyObject_cons]
      by_cases marked : name = embeddingName
      · subst marked
        rw [if_pos rfl]
        obtain ⟨result, takes, other⟩ := takes_marked apart (plain _ List.mem_cons_self) members rest
        exact ⟨result, takes, fun same => absurd same other, fun clear => absurd rfl clear.1⟩
      · rw [if_neg marked]
        obtain ⟨result, takes, same⟩ := takes_sorted sorted all rest
        have unmarked : (((name, value) :: members).map Prod.fst).head? ≠ some embeddingName := by
          simpa using marked
        exact ⟨result, takes, same.trans (and_iff_right unmarked).symm⟩

end Objects

/-! ## Values of any type -/

section Any

variable {ofText : Bytes → Except Failure Value} {inner : Option (Reader Value)}

theorem readAnyWith_null (rest : Bytes) :
    readAnyWith ofText inner (Value.null.print ++ rest) = .ok (.null, rest) := by
  have spelt : Text.bytes "null" = 0x6e :: Text.bytes "ull" := rfl
  simp [-bind_pure_comp, readAnyWith, Value.print, spelt, isBlank, placed, bind_of_ok (word_append _ rest)]

theorem readAnyWith_bool (b : Bool) (rest : Bytes) :
    readAnyWith ofText inner ((Value.bool b).print ++ rest) = .ok (.bool b, rest) := by
  cases b with
  | true =>
      have spelt : Text.bytes "true" = 0x74 :: Text.bytes "rue" := rfl
      simp [-bind_pure_comp, readAnyWith, Value.print, spelt, isBlank, placed, bind_of_ok (word_append _ rest)]
  | false =>
      have spelt : Text.bytes "false" = 0x66 :: Text.bytes "alse" := rfl
      simp [-bind_pure_comp, readAnyWith, Value.print, spelt, isBlank, placed, bind_of_ok (word_append _ rest)]

theorem readAnyWith_int {i : Int} (fits : Number.Fits64 i) {rest : Bytes} (bounded : Number.Bounded rest) :
    readAnyWith ofText inner ((Value.int i).print ++ rest) = .ok (.int i, rest) := by
  obtain ⟨number, read, value⟩ := Number.read_ofInt fits bounded
  obtain ⟨b, more, printed, starts⟩ := (Number.literal_ofInt i).start
  have made : Value.ofNumber number = .int i := by
    cases number <;> cases value <;> rfl
  rw [printed, List.cons_append] at read
  rw [Value.print, printed, List.cons_append]
  have apart := fun c => Value.isStart_ne (c := c) starts
  simp [-bind_pure_comp, readAnyWith, Value.isStart_unblank starts, placed, starts, apart 0x6e rfl,
    apart 0x74 rfl, apart 0x66 rfl, bind_of_ok read, made]

theorem readAnyWith_string (s : String) (rest : Bytes) :
    readAnyWith ofText inner ((Value.string s).print ++ rest) = .ok (.string s, rest) := by
  have start : Number.isStart 0x22 = false := rfl
  have read : Quoted.read (Quoted.escape (Text.bytes s) ++ 0x22 :: rest) = .ok (s, rest) :=
    Quoted.read_escape s rest
  simp [-bind_pure_comp, readAnyWith, Value.print, Quoted.encode, Quoted.quoteByte, isBlank, placed, start,
    bind_of_ok read]

theorem readAnyWith_list (reader : Reader Value) (text : Bytes) :
    readAnyWith ofText (some reader) (0x5b :: text) =
      placed (do return .array (← readList reader)) (0x5b :: text) := by
  have start : Number.isStart 0x5b = false := rfl
  simp [readAnyWith, Quoted.quoteByte, isBlank, placed, start]

theorem readAnyWith_object (reader : Reader Value) (text : Bytes) :
    readAnyWith ofText (some reader) (0x7b :: text) = placed (readAnyObject reader ofText) (0x7b :: text) := by
  have start : Number.isStart 0x7b = false := rfl
  simp [readAnyWith, Quoted.quoteByte, isBlank, placed, start]

theorem recovers_readAnyTo
    (apart : ∀ text value inner, ofText text = .ok value → value ≠ .object [(embeddingName, inner)])
    {depth : Nat} {value : Value} (plain : value.Plain depth) (untyped : value.Untyped) :
    Recovers (readAnyTo ofText depth) value value.Clear := by
  have reader (depth : Nat) : ∃ inner, readAnyTo ofText depth = readAnyWith ofText inner := by
    cases depth <;> exact ⟨_, rfl⟩
  induction plain with
  | @null depth =>
      obtain ⟨inner, same⟩ := reader depth
      rw [same]
      exact recovers_of_ok .null fun rest _ => readAnyWith_null rest
  | @bool depth b =>
      obtain ⟨inner, same⟩ := reader depth
      rw [same]
      exact recovers_of_ok (.bool b) fun rest _ => readAnyWith_bool b rest
  | @int depth i =>
      obtain ⟨inner, same⟩ := reader depth
      cases untyped with
      | int fits =>
          rw [same]
          exact recovers_of_ok (.int i) fun rest bounded => readAnyWith_int fits bounded
  | @string depth s =>
      obtain ⟨inner, same⟩ := reader depth
      rw [same]
      exact recovers_of_ok (.string s) fun rest _ => readAnyWith_string s rest
  | @array depth items plain ih =>
      cases untyped with
      | array all =>
          intro rest bounded
          obtain ⟨result, takes, same⟩ :=
            recovers_array plain (fun item member => ih item member (all item member)) rest bounded
          rw [Value.clear_array_iff]
          refine ⟨result, ?_, same⟩
          rw [Value.print, List.cons_append, Takes, readAnyTo, readAnyWith_list]
          exact takes.placed
  | @object depth members plain ih =>
      cases untyped with
      | object sorted all =>
          intro rest bounded
          obtain ⟨result, takes, same⟩ := recovers_readAnyObject sorted apart plain
            (fun member present => ih member present (all member present)) rest bounded
          refine ⟨result, ?_, same⟩
          rw [Value.print, List.cons_append, Takes, readAnyTo, readAnyWith_object]
          exact takes.placed

/-- A value is read back just if no object in it is taken for the value of a text. -/
theorem recovers_readAny {depth : Nat} {value : Value} (plain : value.Plain depth)
    (untyped : value.Untyped) : Recovers (readAny depth) value value.Clear := by
  intro rest bounded
  have apart := fun text read inner decoded =>
    (written_ofEmbedded (value.print ++ rest).length text read decoded).not_embedding inner
  obtain ⟨result, takes, same⟩ := recovers_readAnyTo apart plain untyped rest bounded
  exact ⟨result, by rw [Takes, readAny]; exact takes, same⟩

end Any

end Provision.Json
