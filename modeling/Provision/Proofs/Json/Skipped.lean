import Mathlib.Data.List.DropRight
import Provision.Proofs.Json.WellFormed

/-! # What is left out is well formed

The reader that leaves a value out accepts nothing but the texts of the grammar: what it passes over is a
value, with blanks in front of it. Inside of containers it passes over all that they still demand of the
text, innermost first.
-/

namespace Provision.Json

open Reader

theorem Reader.bind_eq_ok {α β : Type} {first : Reader α} {next : α → Reader β} {text : Bytes}
    {result : β × Bytes} (read : (first >>= next) text = .ok result) :
    ∃ a rest, first text = .ok (a, rest) ∧ next a rest = .ok result := by
  simp only [bind, StateT.bind] at read
  cases front : first text with
  | error failure =>
      rw [front] at read
      cases read
  | ok both =>
      obtain ⟨a, rest⟩ := both
      rw [front] at read
      exact ⟨a, rest, rfl, read⟩

theorem dropWhile_split (p : UInt8 → Bool) (text : Bytes) :
    ∃ front, text = front ++ text.dropWhile p ∧ ∀ b ∈ front, p b = true :=
  ⟨_, List.takeWhile_append_dropWhile.symm, fun _ => List.mem_takeWhile_imp⟩

/-- Behind blanks the reader sees a byte, or the end of the text. -/
theorem Reader.ahead_eq_ok {α : Type} {next : Option UInt8 → Reader α} {text : Bytes} {result : α × Bytes}
    (read : (skipBlanks >>= fun _ => peek? >>= next) text = .ok result) :
    next none [] = .ok result ∨ ∃ blanks b more, Blank blanks ∧ isBlank b = false ∧
      text = blanks ++ b :: more ∧ next (some b) (b :: more) = .ok result := by
  obtain ⟨blanks, split, blank⟩ := dropWhile_split isBlank text
  have head := List.head?_dropWhile_not isBlank text
  rw [skipBlanks_bind, peek?_bind] at read
  generalize text.dropWhile isBlank = tail at read split head
  cases tail with
  | nil => exact .inl read
  | cons b more => exact .inr ⟨blanks, b, more, blank, head, split, read⟩

variable {text rest : Bytes}

theorem word_eq_ok {expected : Bytes} (read : word expected text = .ok ((), rest)) :
    text = expected ++ rest := by
  induction expected generalizing text with
  | nil =>
      cases text <;> cases read <;> rfl
  | cons b expected ih =>
      cases text with
      | nil => cases read
      | cons c text =>
          rw [word] at read
          split at read
          next same => rw [same, ih read, List.cons_append]
          next => cases read

/-! ## Numbers -/

namespace Number

theorem skipExponentDigits_eq_ok (read : skipExponentDigits text = .ok ((), rest)) :
    ∃ ds, text = ds ++ rest ∧ Digits ds := by
  cases text with
  | nil => cases read
  | cons d text =>
      rw [skipExponentDigits] at read
      split at read
      next digit =>
        cases read
        obtain ⟨more, split, digits⟩ := dropWhile_split isDigit text
        exact ⟨d :: more, by rw [List.cons_append, ← split], .digits digit digits⟩
      next => cases read

theorem skipAfterFraction_eq_ok (read : skipAfterFraction text = .ok ((), rest)) :
    ∃ exponent, text = exponent ++ rest ∧ Exponent exponent := by
  cases text with
  | nil =>
      cases read
      exact ⟨[], rfl, .none⟩
  | cons letter text =>
      rw [skipAfterFraction] at read
      split at read
      next marks =>
        cases text with
        | nil => cases read
        | cons sign text =>
            rw [skipExponent] at read
            obtain ⟨ds, same, digits⟩ := skipExponentDigits_eq_ok read
            split at same
            next signs => exact ⟨letter :: sign :: ds, by rw [same]; rfl, .signed marks signs digits⟩
            next => exact ⟨letter :: ds, by rw [same]; rfl, .plain marks digits⟩
      next =>
        cases read
        exact ⟨[], rfl, .none⟩

theorem skipAfterWhole_eq_ok (read : skipAfterWhole text = .ok ((), rest)) :
    ∃ fraction exponent, text = fraction ++ (exponent ++ rest) ∧ Fraction fraction ∧ Exponent exponent := by
  cases text with
  | nil =>
      cases read
      exact ⟨[], [], rfl, .none, .none⟩
  | cons b text =>
      rw [skipAfterWhole] at read
      split at read
      next point =>
        split at read
        next digit =>
          obtain ⟨d, more, rfl⟩ : ∃ d more, text = d :: more := by
            cases text with
            | nil => cases digit
            | cons d more => exact ⟨d, more, rfl⟩
          replace digit : isDigit d = true := by simpa using digit
          rw [List.dropWhile_cons_of_pos digit] at read
          obtain ⟨exponent, same, third⟩ := skipAfterFraction_eq_ok read
          obtain ⟨inner, split, digits⟩ := dropWhile_split isDigit more
          refine ⟨0x2e :: d :: inner, exponent, ?_, .digits (.digits digit digits), third⟩
          rw [point, split, same, List.cons_append, List.cons_append]
        next => cases read
      next =>
        obtain ⟨exponent, same, third⟩ := skipAfterFraction_eq_ok read
        exact ⟨[], exponent, same, .none, third⟩

theorem skipUnsigned_eq_ok (read : skipUnsigned text = .ok ((), rest)) :
    ∃ whole fraction exponent, text = whole ++ (fraction ++ (exponent ++ rest)) ∧
      Whole whole ∧ Fraction fraction ∧ Exponent exponent := by
  cases text with
  | nil => cases read
  | cons d text =>
      rw [skipUnsigned] at read
      split at read
      next zero =>
        split at read
        next => cases read
        next =>
          obtain ⟨fraction, exponent, same, second, third⟩ := skipAfterWhole_eq_ok read
          exact ⟨[0x30], fraction, exponent, by rw [zero, same]; rfl, .zero, second, third⟩
      next nonzero =>
        split at read
        next digit =>
          obtain ⟨fraction, exponent, same, second, third⟩ := skipAfterWhole_eq_ok read
          obtain ⟨inner, split, digits⟩ := dropWhile_split isDigit text
          refine ⟨d :: inner, fraction, exponent, ?_, .digits digit nonzero digits, second, third⟩
          rw [split, same, List.cons_append]
        next => cases read

theorem skip_eq_ok (read : Number.skip text = .ok ((), rest)) :
    ∃ literal, text = literal ++ rest ∧ Literal literal := by
  cases text with
  | nil => cases read
  | cons b text =>
      rw [Number.skip] at read
      obtain ⟨whole, fraction, exponent, same, first, second, third⟩ := skipUnsigned_eq_ok read
      split at same
      next minus =>
        refine ⟨_, ?_, .negative first second third⟩
        rw [minus, same]
        simp only [List.cons_append, List.append_assoc]
      next =>
        refine ⟨_, ?_, .positive first second third⟩
        rw [same]
        simp only [List.append_assoc]

end Number

/-! ## Strings -/

theorem Quoted.skip_eq_ok (read : Quoted.skip text = .ok ((), rest)) :
    ∃ body, text = body ++ rest ∧ Body body := by
  fun_induction Quoted.skip text with
  | case1 | case3 | case5 | case6 | case8 | case9 => cases read
  | case2 =>
      cases read
      exact ⟨_, rfl, .close⟩
  | case4 _ _ _ _ _ stands _ ih =>
      obtain ⟨body, rfl, closed⟩ := ih read
      exact ⟨_, rfl, .number stands closed⟩
  | case7 _ _ other stands _ ih =>
      obtain ⟨body, rfl, closed⟩ := ih read
      exact ⟨_, rfl, .letter other stands closed⟩
  | case10 _ _ quote slash control ih =>
      obtain ⟨body, rfl, closed⟩ := ih read
      exact ⟨_, rfl, .plain quote slash control closed⟩

/-! ## Values -/

namespace Skip

variable {container : Container} {outer : List Container} {steps : Nat} {b : UInt8}

theorem memberName_eq_ok (read : memberName text = .ok ((), rest)) :
    ∃ lead, text = lead ++ rest ∧ Lead .object lead := by
  rcases ahead_eq_ok read with ended | ⟨front, b, named, before, -, rfl, named⟩
  · cases ended
  dsimp only at named
  split at named
  next quote =>
    rw [advance_bind, List.tail_cons] at named
    obtain ⟨⟨⟩, _, skipped, further⟩ := bind_eq_ok named
    obtain ⟨body, rfl, closed⟩ := Quoted.skip_eq_ok skipped
    rcases ahead_eq_ok further with ended | ⟨blanks, c, more, after, -, rfl, point⟩
    · cases ended
    dsimp only at point
    split at point
    next colon =>
      cases point
      refine ⟨_, ?_, .object before closed after⟩
      rw [quote, colon]
      simp only [List.append_assoc, List.cons_append, List.nil_append, List.tail_cons]
    next => cases point
  next => cases named

theorem beforeValue_eq_ok (read : beforeValue container text = .ok ((), rest)) :
    ∃ lead, text = lead ++ rest ∧ Lead container lead := by
  cases container with
  | list =>
      cases read
      exact ⟨[], rfl, .list⟩
  | object => exact memberName_eq_ok read

theorem scalar_eq_ok (read : scalar b (b :: text) = .ok ((), rest)) :
    ∃ value, b :: text = value ++ rest ∧ Scalar value := by
  have worded {expected : Bytes} (known : Scalar (b :: expected))
      (read : word expected text = .ok ((), rest)) :
      ∃ value, b :: text = value ++ rest ∧ Scalar value :=
    ⟨_, by rw [word_eq_ok read, List.cons_append], known⟩
  rw [scalar] at read
  split at read
  next same => exact worded (same ▸ .null) read
  split at read
  next same => exact worded (same ▸ .true') read
  split at read
  next same => exact worded (same ▸ .false') read
  split at read
  next =>
    obtain ⟨literal, same, known⟩ := Number.skip_eq_ok read
    exact ⟨literal, same, .number known⟩
  split at read
  next same =>
    obtain ⟨body, behind, closed⟩ := Quoted.skip_eq_ok read
    refine ⟨_, ?_, .string closed⟩
    rw [same, List.cons_append, ← behind, List.tail_cons]
  next => cases read

/-- The texts that close containers, innermost first. -/
inductive Closes : List Container → Bytes → Prop where
  | nil : Closes [] []
  | cons {container : Container} {outer : List Container} {text more : Bytes}
      (inner : WellFormed (.inside container true) text) (further : Closes outer more) :
      Closes (container :: outer) (text ++ more)

/-- A text stands at a place in front of what closes the containers around it and of what is left. -/
def Stands (place : Site) (outer : List Container) (text rest : Bytes) : Prop :=
  ∃ inner behind, text = inner ++ (behind ++ rest) ∧ WellFormed place inner ∧ Closes outer behind

theorem Stands.opened (stands : Stands (.inside container false) outer text rest) :
    Stands .value outer (container.opener :: text) rest := by
  obtain ⟨inner, behind, rfl, known, closes⟩ := stands
  exact ⟨_, behind, rfl, .container container known, closes⟩

theorem Stands.first {front lead blanks : Bytes} (before : Blank front) (leads : Lead container lead)
    (blank : Blank blanks) (stands : Stands .value (container :: outer) text rest) :
    Stands (.inside container false) outer (front ++ (lead ++ (blanks ++ text))) rest := by
  obtain ⟨value, behind, rfl, known, closes⟩ := stands
  cases closes with
  | cons inner further =>
      refine ⟨_, _, ?_, .first before leads blank known inner, further⟩
      simp only [List.append_assoc]

theorem Stands.next {front lead blanks : Bytes} (before : Blank front) (leads : Lead container lead)
    (blank : Blank blanks) (stands : Stands .value (container :: outer) text rest) :
    Stands (.inside container true) outer (front ++ 0x2c :: (lead ++ (blanks ++ text))) rest := by
  obtain ⟨value, behind, rfl, known, closes⟩ := stands
  cases closes with
  | cons inner further =>
      refine ⟨_, _, ?_, .next before leads blank known inner, further⟩
      simp only [List.append_assoc, List.cons_append]

/-- In some steps the reader passes over nothing but what stands at a place, with all that closes the
    containers around it. -/
structure Exact (steps : Nat) : Prop where
  value : ∀ outer text rest, value steps outer text = .ok ((), rest) →
    ∃ blanks behind, text = blanks ++ behind ∧ Blank blanks ∧ Stands .value outer behind rest
  after : ∀ outer text rest, after steps outer text = .ok ((), rest) →
    ∃ behind, text = behind ++ rest ∧ Closes outer behind
  content : ∀ afterItem container outer text rest,
    content steps afterItem container outer text = .ok ((), rest) →
      Stands (.inside container afterItem) outer text rest

theorem exact_zero : Exact 0 where
  value _ _ _ read := nomatch read
  after outer text rest read := by
    cases outer with
    | nil =>
        cases read
        exact ⟨[], rfl, .nil⟩
    | cons => cases read
  content _ _ _ _ _ read := nomatch read

namespace Exact

theorem value_succ (fewer : Exact steps) (read : Skip.value (steps + 1) outer text = .ok ((), rest)) :
    ∃ blanks behind, text = blanks ++ behind ∧ Blank blanks ∧ Stands .value outer behind rest := by
  rw [Skip.value] at read
  rcases ahead_eq_ok read with ended | ⟨blanks, b, more, blank, -, rfl, starts⟩
  · cases ended
  refine ⟨blanks, b :: more, rfl, blank, ?_⟩
  dsimp only at starts
  split at starts
  next list =>
    rw [list]
    exact (fewer.content _ _ _ _ _ starts).opened
  split at starts
  next object =>
    rw [object]
    exact (fewer.content _ _ _ _ _ starts).opened
  next =>
    obtain ⟨⟨⟩, behind, skipped, further⟩ := bind_eq_ok starts
    obtain ⟨value, same, known⟩ := scalar_eq_ok skipped
    obtain ⟨closers, rfl, closes⟩ := fewer.after _ _ _ further
    exact ⟨value, closers, same, .scalar known, closes⟩

theorem after_succ (fewer : Exact steps) (read : Skip.after (steps + 1) outer text = .ok ((), rest)) :
    ∃ behind, text = behind ++ rest ∧ Closes outer behind := by
  cases outer with
  | nil =>
      cases read
      exact ⟨[], rfl, .nil⟩
  | cons container outer =>
      obtain ⟨inner, behind, rfl, known, closes⟩ := fewer.content _ _ _ _ _ read
      exact ⟨inner ++ behind, (List.append_assoc ..).symm, .cons known closes⟩

theorem content_succ (fewer : Exact steps) {afterItem : Bool}
    (read : Skip.content (steps + 1) afterItem container outer text = .ok ((), rest)) :
    Stands (.inside container afterItem) outer text rest := by
  have item {text}
      (read : (do beforeValue container; Skip.value steps (container :: outer)) text = .ok ((), rest)) :
      ∃ lead blanks behind, text = lead ++ (blanks ++ behind) ∧ Lead container lead ∧ Blank blanks ∧
        Stands .value (container :: outer) behind rest := by
    obtain ⟨⟨⟩, _, led, valued⟩ := bind_eq_ok read
    obtain ⟨lead, rfl, leads⟩ := beforeValue_eq_ok led
    obtain ⟨blanks, behind, rfl, blank, stands⟩ := fewer.value _ _ _ valued
    exact ⟨lead, blanks, behind, rfl, leads, blank, stands⟩
  rw [Skip.content] at read
  rcases ahead_eq_ok read with ended | ⟨front, b, more, before, -, rfl, seen⟩
  · cases ended
  clear read
  dsimp only at seen
  split at seen
  next comma =>
    obtain ⟨rfl, rfl⟩ : afterItem = true ∧ b = 0x2c := by simpa using comma
    obtain ⟨lead, blanks, behind, rfl, leads, blank, stands⟩ := item seen
    exact stands.next before leads blank
  split at seen
  next closer =>
    obtain ⟨behind, same, closes⟩ := fewer.after _ _ _ seen
    refine ⟨_, behind, ?_, .close before, closes⟩
    rw [closer, ← same, List.append_assoc]
    rfl
  split at seen
  next => cases seen
  next start =>
    obtain rfl : afterItem = false := by simpa using start
    obtain ⟨lead, blanks, behind, same, leads, blank, stands⟩ := item seen
    rw [same]
    exact stands.first before leads blank

theorem of_steps (steps : Nat) : Exact steps := by
  induction steps with
  | zero => exact exact_zero
  | succ steps ih =>
      exact ⟨fun _ _ _ => ih.value_succ, fun _ _ _ => ih.after_succ, fun _ _ _ _ _ => ih.content_succ⟩

end Exact

end Skip

/-- A value that is left out is well formed, with blanks in front of it. -/
theorem skipValue_eq_ok (read : skipValue text = .ok ((), rest)) :
    ∃ blanks value, text = blanks ++ (value ++ rest) ∧ Blank blanks ∧ WellFormed .value value := by
  obtain ⟨blanks, behind, rfl, blank, value, closers, rfl, known, closes⟩ :=
    (Skip.Exact.of_steps _).value _ _ _ read
  cases closes
  exact ⟨blanks, value, rfl, blank, known⟩

/-- A value that is kept as it was written is well formed. -/
theorem readRaw_eq_ok {value : Bytes} (read : readRaw text = .ok (value, rest)) :
    ∃ blanks, text = blanks ++ (value ++ rest) ∧ Blank blanks ∧ WellFormed .value value := by
  obtain ⟨front, split, before⟩ := dropWhile_split isBlank text
  have trimmed := List.dropWhile_idempotent isBlank text
  rw [readRaw, skipBlanks_bind, get_bind] at read
  generalize text.dropWhile isBlank = start at read split trimmed
  obtain ⟨⟨⟩, behind, skipped, kept⟩ := bind_eq_ok read
  obtain ⟨blanks, inner, same, blank, known⟩ := skipValue_eq_ok skipped
  have unblank : start = inner ++ behind := by
    obtain ⟨b, more, rfl, other, -⟩ := known.start
    rw [← trimmed, same, dropWhile_front blank fun _ next => by cases next; exact other]
  obtain ⟨rfl, rfl⟩ : value = inner ∧ rest = behind := by
    cases kept
    rw [unblank]
    simp
  exact ⟨front, by rw [split, unblank], before, known⟩

/-- Just the well-formed texts are kept as a whole. -/
theorem readRaw_eq_ok_iff {value : Bytes} : readRaw value = .ok (value, []) ↔ WellFormed .value value := by
  constructor
  · intro read
    obtain ⟨-, -, -, known⟩ := readRaw_eq_ok read
    exact known
  · intro known
    have kept := @WellFormed.readRaw value [] known nofun
    rwa [List.append_nil] at kept

end Provision.Json
