import Mathlib.Data.List.Basic
import Provision.Json.Skip

/-! # Well-formed texts

The grammar of values, without regard to what they mean: blanks may stand around every token, names may
be given twice, and half of a surrogate pair is an escape like any other. What the grammar derives is
left out by the reader in one piece, whatever follows it. Only a number needs an end: a digit that
followed would belong to it.
-/

namespace Provision.Json

theorem dropWhile_front {p : UInt8 → Bool} {front rest : Bytes} (inside : ∀ b ∈ front, p b = true)
    (outside : ∀ b, rest.head? = some b → p b = false) : (front ++ rest).dropWhile p = rest := by
  rw [List.dropWhile_append_of_pos inside]
  cases rest with
  | nil => rfl
  | cons b rest => simp [outside b rfl]

/-! ## Numbers -/

namespace Number

inductive Digits : Bytes → Prop where
  | digits {d : UInt8} {ds : Bytes} (first : isDigit d = true) (more : ∀ b ∈ ds, isDigit b = true) :
      Digits (d :: ds)

inductive Whole : Bytes → Prop where
  | zero : Whole [0x30]
  | digits {d : UInt8} {ds : Bytes} (first : isDigit d = true) (nonzero : d ≠ 0x30)
      (more : ∀ b ∈ ds, isDigit b = true) : Whole (d :: ds)

inductive Fraction : Bytes → Prop where
  | none : Fraction []
  | digits {ds : Bytes} (wanted : Digits ds) : Fraction (0x2e :: ds)

inductive Exponent : Bytes → Prop where
  | none : Exponent []
  | plain {letter : UInt8} {ds : Bytes} (marks : letter = 0x65 ∨ letter = 0x45) (wanted : Digits ds) :
      Exponent (letter :: ds)
  | signed {letter sign : UInt8} {ds : Bytes} (marks : letter = 0x65 ∨ letter = 0x45)
      (signs : sign = 0x2b ∨ sign = 0x2d) (wanted : Digits ds) : Exponent (letter :: sign :: ds)

inductive Literal : Bytes → Prop where
  | positive {whole fraction exponent : Bytes} (first : Whole whole) (second : Fraction fraction)
      (third : Exponent exponent) : Literal (whole ++ (fraction ++ exponent))
  | negative {whole fraction exponent : Bytes} (first : Whole whole) (second : Fraction fraction)
      (third : Exponent exponent) : Literal (0x2d :: (whole ++ (fraction ++ exponent)))

/-- No number can go on with what follows. -/
def Bounded (rest : Bytes) : Prop :=
  ∀ b, rest.head? = some b → isDigit b = false ∧ b ≠ 0x2e ∧ b ≠ 0x65 ∧ b ≠ 0x45

variable {whole fraction exponent ds rest text : Bytes}

theorem isDigit_ne {d b : UInt8} (digit : isDigit d = true) (other : isDigit b = false) : d ≠ b := by
  rintro rfl
  simp [digit] at other

theorem Digits.skip (wanted : Digits ds) (bounded : Bounded rest) :
    skipExponentDigits (ds ++ rest) = .ok ((), rest) := by
  cases wanted with
  | digits first more =>
      simp [skipExponentDigits, first, dropWhile_front more fun b next => (bounded b next).1]

theorem Exponent.skip (third : Exponent exponent) (bounded : Bounded rest) :
    skipAfterFraction (exponent ++ rest) = .ok ((), rest) := by
  cases third with
  | none =>
      cases rest with
      | nil => rfl
      | cons b rest =>
          obtain ⟨-, -, lower, upper⟩ := bounded b rfl
          simp [skipAfterFraction, lower, upper]
  | plain marks wanted =>
      have goes := wanted.skip bounded
      cases wanted with
      | digits first more =>
          have plus := isDigit_ne (b := 0x2b) first rfl
          have minus := isDigit_ne (b := 0x2d) first rfl
          simpa [skipAfterFraction, marks, skipExponent, plus, minus] using goes
  | signed marks signs wanted =>
      simpa [skipAfterFraction, marks, skipExponent, signs] using wanted.skip bounded

/-- An exponent, or what follows where there is none, starts with no digit and with no point. -/
theorem Exponent.head (third : Exponent exponent) (bounded : Bounded rest) {b : UInt8}
    (next : (exponent ++ rest).head? = some b) : isDigit b = false ∧ b ≠ 0x2e := by
  cases third with
  | none =>
      obtain ⟨digit, point, -⟩ := bounded b next
      exact ⟨digit, point⟩
  | plain marks | signed marks =>
      cases next
      rcases marks with rfl | rfl <;> decide

theorem Fraction.skip (second : Fraction fraction) (third : Exponent exponent)
    (bounded : Bounded rest) : skipAfterWhole (fraction ++ (exponent ++ rest)) = .ok ((), rest) := by
  have ends := third.skip bounded
  have head := fun b => third.head bounded (b := b)
  generalize exponent ++ rest = more at ends head
  cases second with
  | none =>
      cases more with
      | nil => exact ends
      | cons b more => simpa [skipAfterWhole, (head b rfl).2] using ends
  | digits wanted =>
      cases wanted with
      | digits first inner =>
          simpa [skipAfterWhole, first, dropWhile_front inner fun b next => (head b next).1] using ends

/-- A fraction or an exponent, or what follows where there is neither, starts with no digit. -/
theorem Fraction.head (second : Fraction fraction) (third : Exponent exponent) (bounded : Bounded rest)
    {b : UInt8} (next : (fraction ++ (exponent ++ rest)).head? = some b) : isDigit b = false := by
  cases second with
  | none => exact (third.head bounded next).1
  | digits => cases next; rfl

theorem Whole.skip (first : Whole whole) (second : Fraction fraction) (third : Exponent exponent)
    (bounded : Bounded rest) :
    skipUnsigned (whole ++ (fraction ++ (exponent ++ rest))) = .ok ((), rest) := by
  have ends := second.skip third bounded
  have head := fun b => second.head third bounded (b := b)
  generalize fraction ++ (exponent ++ rest) = more at ends head
  cases first with
  | zero =>
      cases more with
      | nil => exact ends
      | cons b more => simpa [skipUnsigned, head b rfl] using ends
  | digits first nonzero inner =>
      simpa [skipUnsigned, first, nonzero, dropWhile_front inner head] using ends

theorem Literal.skip (literal : Literal text) (bounded : Bounded rest) :
    Number.skip (text ++ rest) = .ok ((), rest) := by
  cases literal with
  | positive first second third =>
      have ends := first.skip second third bounded
      cases first with
      | zero => simpa [Number.skip] using ends
      | digits first =>
          have minus := isDigit_ne (b := 0x2d) first rfl
          simpa [Number.skip, minus] using ends
  | negative first second third =>
      simpa [Number.skip] using first.skip second third bounded

theorem Literal.start (literal : Literal text) : ∃ b more, text = b :: more ∧ isStart b = true := by
  cases literal with
  | positive first =>
      cases first with
      | zero => exact ⟨_, _, rfl, rfl⟩
      | digits digit => exact ⟨_, _, rfl, by simp [isStart, digit]⟩
  | negative => exact ⟨_, _, rfl, rfl⟩

end Number

/-! ## Strings -/

namespace Quoted

/-- What stands behind the opening quote of a string, up to and with the closing one. -/
inductive Body : Bytes → Prop where
  | close : Body [quoteByte]
  | plain {b : UInt8} {body : Bytes} (quote : b ≠ quoteByte) (slash : b ≠ backslash)
      (control : ¬b < 0x20) (more : Body body) : Body (b :: body)
  | letter {c : UInt8} {body : Bytes} (other : c ≠ letterU) (stands : (ofEscape? c).isSome = true)
      (more : Body body) : Body (backslash :: c :: body)
  | number {h₁ h₂ h₃ h₄ : UInt8} {body : Bytes} (stands : (hexQuad? h₁ h₂ h₃ h₄).isSome = true)
      (more : Body body) : Body (backslash :: letterU :: h₁ :: h₂ :: h₃ :: h₄ :: body)

theorem Body.skip {body rest : Bytes} (closed : Body body) :
    Quoted.skip (body ++ rest) = .ok ((), rest) := by
  induction closed with
  | close =>
      rw [List.cons_append, Quoted.skip.eq_def]
      rfl
  | plain quote slash control more ih =>
      rw [List.cons_append, Quoted.skip.eq_def]
      simpa [quote, slash, control] using ih
  | letter other stands more ih =>
      rw [List.cons_append, Quoted.skip.eq_def]
      simpa [other, stands, show backslash ≠ quoteByte by decide] using ih
  | number stands more ih =>
      rw [List.cons_append, Quoted.skip.eq_def]
      simpa [stands, show backslash ≠ quoteByte by decide] using ih

end Quoted

/-! ## Values -/

open Reader

def Blank (text : Bytes) : Prop := ∀ b ∈ text, isBlank b = true

inductive Scalar : Bytes → Prop where
  | null : Scalar (Text.bytes "null")
  | true' : Scalar (Text.bytes "true")
  | false' : Scalar (Text.bytes "false")
  | number {text : Bytes} (literal : Number.Literal text) : Scalar text
  | string {body : Bytes} (closed : Quoted.Body body) : Scalar (Quoted.quoteByte :: body)

namespace Skip

def Container.opener : Container → UInt8
  | list => 0x5b
  | object => 0x7b

/-- What stands in front of a value in a container: in an object, its name. -/
inductive Lead : Container → Bytes → Prop where
  | list : Lead .list []
  | object {front body behind : Bytes} (before : Blank front) (closed : Quoted.Body body)
      (after : Blank behind) :
      Lead .object (front ++ (Quoted.quoteByte :: body ++ (behind ++ [0x3a])))

/-- A place in a text that the reader looks at. -/
inductive Site where
  | value
  /-- Inside a container, behind an item or at the start. -/
  | inside (container : Container) (afterItem : Bool)

end Skip

open Skip in
/-- The texts that may stand at a place: a value, or what is left of a container up to and with the
    byte that closes it. -/
inductive WellFormed : Site → Bytes → Prop where
  | scalar {text : Bytes} (known : Scalar text) : WellFormed .value text
  | container (container : Container) {text : Bytes}
      (content : WellFormed (.inside container false) text) :
      WellFormed .value (container.opener :: text)
  | close {container : Container} {afterItem : Bool} {blanks : Bytes} (blank : Blank blanks) :
      WellFormed (.inside container afterItem) (blanks ++ [container.closer])
  | first {container : Container} {front lead inner text more : Bytes} (before : Blank front)
      (leads : Lead container lead) (blank : Blank inner) (value : WellFormed .value text)
      (rest : WellFormed (.inside container true) more) :
      WellFormed (.inside container false) (front ++ (lead ++ (inner ++ (text ++ more))))
  | next {container : Container} {front lead inner text more : Bytes} (before : Blank front)
      (leads : Lead container lead) (blank : Blank inner) (value : WellFormed .value text)
      (rest : WellFormed (.inside container true) more) :
      WellFormed (.inside container true) (front ++ 0x2c :: (lead ++ (inner ++ (text ++ more))))

/-! ## What is well formed is left out -/

theorem Reader.bind_of_ok {α β : Type} {first : Reader α} {next : α → Reader β} {text rest : Bytes}
    {a : α} (read : first text = .ok (a, rest)) : (first >>= next) text = next a rest := by
  simp only [bind, StateT.bind, read, Except.bind]

@[simp] theorem Reader.pure_apply {α : Type} {value : α} {text : Bytes} :
    (pure value : Reader α) text = .ok (value, text) := rfl

@[simp] theorem Reader.skipBlanks_bind {β : Type} {next : Unit → Reader β} {text : Bytes} :
    (skipBlanks >>= next) text = next () (text.dropWhile isBlank) := rfl

@[simp] theorem Reader.peek?_bind {β : Type} {next : Option UInt8 → Reader β} {text : Bytes} :
    (peek? >>= next) text = next text.head? text := rfl

@[simp] theorem Reader.advance_bind {β : Type} {next : Unit → Reader β} {text : Bytes} :
    (advance >>= next) text = next () text.tail := rfl

@[simp] theorem Reader.get_bind {β : Type} {next : Bytes → Reader β} {text : Bytes} :
    (get >>= next) text = next text text := rfl

theorem word_append (expected rest : Bytes) : word expected (expected ++ rest) = .ok ((), rest) := by
  induction expected with
  | nil => cases rest <;> rfl
  | cons b more ih => simpa [word] using ih

theorem Scalar.start {text : Bytes} (known : Scalar text) : ∃ b more, text = b :: more ∧
    isBlank b = false ∧ b ≠ 0x5b ∧ b ≠ 0x7b ∧ b ≠ 0x5d ∧
      ∀ rest, Number.Bounded rest → Skip.scalar b (b :: more ++ rest) = .ok ((), rest) := by
  cases known with
  | null | true' | false' =>
      exact ⟨_, _, rfl, rfl, by decide, by decide, by decide, fun rest _ => word_append _ rest⟩
  | number literal =>
      obtain ⟨b, more, rfl, starts⟩ := literal.start
      have apart : ∀ c, Number.isStart c = false → b ≠ c := by
        rintro c other rfl
        simp [starts] at other
      refine ⟨b, more, rfl, ?_, apart _ rfl, apart _ rfl, apart _ rfl, fun rest bounded => ?_⟩
      · simp [isBlank, apart 0x20 rfl, apart 0x09 rfl, apart 0x0a rfl, apart 0x0d rfl]
      · simpa [Skip.scalar, apart 0x6e rfl, apart 0x74 rfl, apart 0x66 rfl, starts] using
          literal.skip bounded
  | string closed =>
      exact ⟨_, _, rfl, rfl, by decide, by decide, by decide, fun rest _ => closed.skip⟩

namespace Skip

variable {container : Container} {steps : Nat} {outer : List Container} {text rest : Bytes} {b : UInt8}

theorem Lead.skip {lead : Bytes} (leads : Lead container lead) (rest : Bytes) :
    beforeValue container (lead ++ rest) = .ok ((), rest) := by
  cases leads with
  | list => rfl
  | @object front body behind before closed after =>
      have named : (front ++ Quoted.quoteByte :: (body ++ (behind ++ 0x3a :: rest))).dropWhile isBlank =
          Quoted.quoteByte :: (body ++ (behind ++ 0x3a :: rest)) :=
        dropWhile_front before fun _ next => by cases next; rfl
      have ended : (behind ++ 0x3a :: rest).dropWhile isBlank = 0x3a :: rest :=
        dropWhile_front after fun _ next => by cases next; rfl
      simp [beforeValue, memberName, named, bind_of_ok closed.skip, ended, advance]

theorem value_blanks {blanks : Bytes} (blank : Blank blanks) :
    value (steps + 1) outer (blanks ++ text) = value (steps + 1) outer text := by
  simp [value, List.dropWhile_append_of_pos blank]

theorem content_blanks {blanks : Bytes} (blank : Blank blanks) {afterItem : Bool} :
    content (steps + 1) afterItem container outer (blanks ++ text) =
      content (steps + 1) afterItem container outer text := by
  simp [content, List.dropWhile_append_of_pos blank]

theorem value_opener : value (steps + 1) outer (container.opener :: rest) =
    content steps false container outer rest := by
  cases container <;> simp [value, Container.opener, isBlank]

theorem value_scalar {more : Bytes} (blank : isBlank b = false) (list : b ≠ 0x5b) (object : b ≠ 0x7b)
    (skipped : scalar b (b :: more) = .ok ((), rest)) :
    value (steps + 1) outer (b :: more) = after steps outer rest := by
  simp [value, blank, list, object, bind_of_ok skipped]

theorem content_closer {afterItem : Bool} :
    content (steps + 1) afterItem container outer (container.closer :: rest) =
      after steps outer rest := by
  cases container <;> cases afterItem <;> simp [content, Container.closer, isBlank]

theorem content_first {more : Bytes} (blank : isBlank b = false) (other : b ≠ container.closer)
    (led : beforeValue container (b :: more) = .ok ((), rest)) :
    content (steps + 1) false container outer (b :: more) = value steps (container :: outer) rest := by
  simp [content, blank, other, bind_of_ok led]

theorem content_next {more : Bytes} (led : beforeValue container more = .ok ((), rest)) :
    content (steps + 1) true container outer (0x2c :: more) =
      value steps (container :: outer) rest := by
  simp [content, isBlank, bind_of_ok led]

/-- The reader enters a container at its first item, whose value starts with no blank. -/
theorem content_item {front lead inner more : Bytes} (before : Blank front) (leads : Lead container lead)
    (blank : Blank inner) (start : isBlank b = false) (other : b ≠ 0x5d) :
    content (steps + 2) false container outer (front ++ (lead ++ (inner ++ b :: more))) =
      value (steps + 1) (container :: outer) (b :: more) := by
  rw [content_blanks before]
  cases leads with
  | list =>
      rw [List.nil_append, content_blanks blank]
      exact content_first start other rfl
  | object front closed behind =>
      rw [List.append_assoc, content_blanks front]
      refine (content_first rfl (by decide) ?_).trans (value_blanks blank)
      exact (@Lead.object [] _ _ (List.forall_mem_nil _) closed behind).skip _

theorem content_further {front lead inner : Bytes} (before : Blank front) (leads : Lead container lead)
    (blank : Blank inner) :
    content (steps + 2) true container outer (front ++ 0x2c :: (lead ++ (inner ++ text))) =
      value (steps + 1) (container :: outer) text := by
  rw [content_blanks before, content_next (leads.skip _), value_blanks blank]

/-- In so many steps the reader gets behind a text that stands at a place. -/
def Passed : Site → Nat → Bytes → Prop
  | .value, cost, text => ∀ steps outer rest, Number.Bounded rest →
      value (cost + steps) outer (text ++ rest) = after steps outer rest
  | .inside container afterItem, cost, text => ∀ steps outer rest,
      content (cost + steps) afterItem container outer (text ++ rest) = after steps outer rest

/-- Behind the value of an item the reader goes on with what is left of the container. -/
theorem Passed.onward {first second : Nat} {more : Bytes} (passed : Passed .value first text)
    (passed' : Passed (.inside container true) second more)
    (bounded : Number.Bounded (more ++ rest)) :
    value (first + (second + steps + 1)) (container :: outer) (text ++ (more ++ rest)) =
      after steps outer rest :=
  (passed _ _ _ bounded).trans (passed' steps outer rest)

/-- The steps for a text are at most three for each of its bytes; a value needs two fewer. -/
def Site.spare : Site → Nat
  | .value => 2
  | .inside .. => 0

end Skip

theorem WellFormed.start {text : Bytes} (known : WellFormed .value text) :
    ∃ b more, text = b :: more ∧ isBlank b = false ∧ b ≠ 0x5d := by
  cases known with
  | scalar known =>
      obtain ⟨b, more, same, blank, -, -, other, -⟩ := known.start
      exact ⟨b, more, same, blank, other⟩
  | container container => cases container <;> exact ⟨_, _, rfl, rfl, by decide⟩

theorem Blank.bounded {blanks rest : Bytes} (blank : Blank blanks) (bounded : Number.Bounded rest) :
    Number.Bounded (blanks ++ rest) := by
  cases blanks with
  | nil => exact bounded
  | cons b blanks =>
      rintro _ ⟨⟩
      have known := blank b List.mem_cons_self
      simp only [isBlank, Bool.or_eq_true, beq_iff_eq] at known
      rcases known with ((rfl | rfl) | rfl) | rfl <;> decide

theorem WellFormed.bounded {container : Skip.Container} {text rest : Bytes}
    (known : WellFormed (.inside container true) text) : Number.Bounded (text ++ rest) := by
  cases known with
  | close blank =>
      rw [List.append_assoc]
      refine blank.bounded ?_
      rintro _ ⟨⟩
      cases container <;> decide
  | next before =>
      rw [List.append_assoc]
      refine before.bounded ?_
      rintro _ ⟨⟩
      decide

theorem WellFormed.passed {place : Skip.Site} {text : Bytes} (known : WellFormed place text) :
    ∃ cost, cost + place.spare ≤ 3 * text.length ∧ Skip.Passed place cost text := by
  induction known with
  | scalar known =>
      obtain ⟨b, more, rfl, blank, list, object, -, skips⟩ := known.start
      refine ⟨1, ?_, fun steps outer rest bounded => ?_⟩
      · simp only [Skip.Site.spare, List.length_cons]
        omega
      · rw [Nat.add_comm]
        exact Skip.value_scalar blank list object (skips rest bounded)
  | container container content ih =>
      obtain ⟨cost, enough, passed⟩ := ih
      refine ⟨cost + 1, ?_, fun steps outer rest _ => ?_⟩
      · simp only [Skip.Site.spare, List.length_cons] at *
        omega
      · rw [Nat.add_right_comm]
        exact Skip.value_opener.trans (passed steps outer rest)
  | close blank =>
      refine ⟨1, ?_, fun steps outer rest => ?_⟩
      · simp only [Skip.Site.spare, List.length_append, List.length_cons]
        omega
      · rw [Nat.add_comm, List.append_assoc, Skip.content_blanks blank]
        exact Skip.content_closer
  | @first container front lead inner text more before leads blank value rest ihValue ihRest =>
      obtain ⟨first, enough, passed⟩ := ihValue
      obtain ⟨second, enough', passed'⟩ := ihRest
      obtain ⟨b, tail, rfl, start, other⟩ := value.start
      refine ⟨first + second + 2, ?_, fun steps outer behind => ?_⟩
      · simp only [Skip.Site.spare, List.length_append, List.length_cons] at *
        omega
      calc
        Skip.content (first + second + 2 + steps) false container outer
            (front ++ (lead ++ (inner ++ (b :: tail ++ more))) ++ behind)
          = Skip.content (first + second + steps + 2) false container outer
            (front ++ (lead ++ (inner ++ b :: (tail ++ (more ++ behind))))) := by
              simp [Nat.add_right_comm]
        _ = Skip.value (first + (second + steps + 1)) (container :: outer)
            (b :: tail ++ (more ++ behind)) := by
              rw [Skip.content_item before leads blank start other]
              simp [Nat.add_assoc]
        _ = Skip.after steps outer behind := passed.onward passed' rest.bounded
  | @next container front lead inner text more before leads blank value rest ihValue ihRest =>
      obtain ⟨first, enough, passed⟩ := ihValue
      obtain ⟨second, enough', passed'⟩ := ihRest
      refine ⟨first + second + 2, ?_, fun steps outer behind => ?_⟩
      · simp only [Skip.Site.spare, List.length_append, List.length_cons] at *
        omega
      calc
        Skip.content (first + second + 2 + steps) true container outer
            (front ++ 0x2c :: (lead ++ (inner ++ (text ++ more))) ++ behind)
          = Skip.content (first + second + steps + 2) true container outer
            (front ++ 0x2c :: (lead ++ (inner ++ (text ++ (more ++ behind))))) := by
              simp [Nat.add_right_comm]
        _ = Skip.value (first + (second + steps + 1)) (container :: outer) (text ++ (more ++ behind)) := by
              rw [Skip.content_further before leads blank]
              simp [Nat.add_assoc]
        _ = Skip.after steps outer behind := passed.onward passed' rest.bounded

theorem WellFormed.skipValue {text rest : Bytes} (known : WellFormed .value text)
    (bounded : Number.Bounded rest) : skipValue (text ++ rest) = .ok ((), rest) := by
  obtain ⟨cost, enough, passed⟩ := known.passed
  obtain ⟨spare, total⟩ : ∃ spare, 3 * (text ++ rest).length + 3 = cost + spare := by
    refine Nat.exists_eq_add_of_le ?_
    simp only [Skip.Site.spare, List.length_append] at *
    omega
  rw [Json.skipValue, total, passed spare [] rest bounded]
  cases spare <;> rfl

/-- A well-formed value is kept as it was written. -/
theorem WellFormed.readRaw {text rest : Bytes} (known : WellFormed .value text)
    (bounded : Number.Bounded rest) : readRaw (text ++ rest) = .ok (text, rest) := by
  have skips := known.skipValue bounded
  have unblank : (text ++ rest).dropWhile isBlank = text ++ rest := by
    obtain ⟨b, more, rfl, blank, -⟩ := known.start
    simp [blank]
  simp only [Json.readRaw, skipBlanks_bind, get_bind, unblank, bind_of_ok skips]
  rw [List.length_append, Nat.add_sub_cancel, List.take_left, pure_apply]

end Provision.Json
