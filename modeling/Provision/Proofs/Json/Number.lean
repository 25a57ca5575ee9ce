import Mathlib.Data.List.TakeWhile
import Provision.Json.Value
import Provision.Proofs.Json.Skipped

/-! # Integers are read back

An integer of 64 bits, signed or not, is written without leading zeros and read as itself, if what follows
cannot belong to it. No number that is read as an integer has more bits.
-/

namespace Provision

theorem Text.bytes_append (s t : String) : Text.bytes (s ++ t) = Text.bytes s ++ Text.bytes t := by
  simp [Text.bytes]

namespace Json.Number

open Reader

/-- The byte of a digit. -/
def digitByte (n : Nat) : UInt8 := UInt8.ofNat (0x30 + n)

theorem isDigit_digitByte {n : Nat} (below : n < 10) : isDigit (digitByte n) = true := by
  have all : ∀ n < 10, isDigit (digitByte n) = true := by decide
  exact all n below

theorem digitValue_digitByte {n : Nat} (below : n < 10) : digitValue (digitByte n) = n := by
  have all : ∀ n < 10, digitValue (digitByte n) = n := by decide
  exact all n below

theorem bytes_digitChar {n : Nat} (below : n < 10) :
    Text.bytes (String.ofList [n.digitChar]) = [digitByte n] := by
  have all : ∀ n < 10, Text.bytes (String.ofList [n.digitChar]) = [digitByte n] := by decide
  exact all n below

theorem bytes_toString (n : Nat) : Text.bytes (toString n) =
    if n < 10 then [digitByte n] else Text.bytes (toString (n / 10)) ++ [digitByte (n % 10)] := by
  rw [Nat.toString_eq_ofList_toDigits, Nat.toDigits_eq_if (by decide)]
  split
  next below => exact bytes_digitChar below
  next =>
    rw [String.ofList_append, Text.bytes_append, ← Nat.toString_eq_ofList_toDigits,
      bytes_digitChar (Nat.mod_lt _ (by decide))]

theorem digitsValue_append (ds : Bytes) (d : UInt8) :
    digitsValue (ds ++ [d]) = digitsValue ds * 10 + digitValue d := by
  simp [digitsValue]

/-- Only zero is written with a zero in front. -/
theorem whole_toString (n : Nat) :
    Whole (Text.bytes (toString n)) ∧ digitsValue (Text.bytes (toString n)) = n := by
  induction n using Nat.strongRecOn with
  | ind n ih =>
      rw [bytes_toString]
      split
      next below =>
        refine ⟨?_, by simp [digitsValue, digitValue_digitByte below]⟩
        cases n with
        | zero => exact .zero
        | succ n =>
            refine .digits (isDigit_digitByte below) (fun zero => ?_) nofun
            have value := digitValue_digitByte below
            rw [zero] at value
            cases value
      next above =>
        have last := Nat.mod_lt n (show 10 > 0 by decide)
        obtain ⟨whole, value⟩ := ih (n / 10) (by omega)
        refine ⟨?_, by rw [digitsValue_append, value, digitValue_digitByte last]; omega⟩
        generalize Text.bytes (toString (n / 10)) = front at whole value
        cases whole with
        | zero =>
            have none : n / 10 = 0 := value.symm
            omega
        | digits first nonzero more =>
            refine .digits first nonzero fun b member => ?_
            rcases List.mem_append.mp member with inside | behind
            · exact more b inside
            · rw [List.mem_singleton.mp behind]
              exact isDigit_digitByte last

variable {whole text rest : Bytes} {positive : Bool} {number : Number} {i : Int}

theorem readAfterWhole_bounded (bounded : Bounded rest) :
    readAfterWhole positive whole rest = ofWhole positive whole rest := by
  cases rest with
  | nil => rfl
  | cons b rest =>
      obtain ⟨-, point, lower, upper⟩ := bounded b rfl
      simp [readAfterWhole, point, lower, upper]

theorem Whole.readUnsigned (first : Whole whole) (bounded : Bounded rest) :
    readUnsigned positive (whole ++ rest) = ofWhole positive whole rest := by
  rw [← readAfterWhole_bounded bounded]
  cases first with
  | zero =>
      have other : rest.head?.any isDigit = false := by
        cases rest with
        | nil => rfl
        | cons b rest => exact (bounded b rfl).1
      simp [Number.readUnsigned, other]
  | digits first nonzero more =>
      have ends : ∀ b, rest.head? = some b → isDigit b = false := fun b next => (bounded b next).1
      have taken : (List.takeWhile isDigit rest) = [] := by
        cases rest with
        | nil => rfl
        | cons b rest => simp [ends b rfl]
      simp [Number.readUnsigned, nonzero, first, dropWhile_front more ends,
        List.takeWhile_append_of_pos more, taken]

theorem Whole.read_natural (first : Whole whole) (bounded : Bounded rest)
    (high : digitsValue whole ≤ maxNatural) :
    read (whole ++ rest) = .ok (.natural (digitsValue whole), rest) := by
  have unsigned : read (whole ++ rest) = Number.readUnsigned true (whole ++ rest) := by
    cases first with
    | zero => rfl
    | digits first =>
        have minus := isDigit_ne (b := 0x2d) first rfl
        simp [read, minus]
  rw [unsigned, first.readUnsigned bounded, ofWhole, if_pos ⟨rfl, high⟩]
  rfl

theorem Whole.read_negative (first : Whole whole) (bounded : Bounded rest)
    (nonzero : digitsValue whole ≠ 0) (low : digitsValue whole ≤ maxNegative) :
    read (0x2d :: (whole ++ rest)) = .ok (.negative (digitsValue whole), rest) := by
  rw [read, if_pos rfl, first.readUnsigned bounded, ofWhole, if_neg nofun, if_pos ⟨nofun, nonzero, low⟩]
  rfl

/-- An integer fits into 64 bits, signed or not. -/
structure Fits64 (i : Int) : Prop where
  low : -(maxNegative : Int) ≤ i
  high : i ≤ maxNatural

theorem ofInt_negSucc (n : Nat) : ofInt (Int.negSucc n) = 0x2d :: Text.bytes (toString (n + 1)) := by
  rw [ofInt, show toString (Int.negSucc n) = "-" ++ toString (n + 1) from rfl, Text.bytes_append]
  rfl

theorem literal_ofInt (i : Int) : Literal (ofInt i) := by
  cases i with
  | ofNat n =>
      have literal : Literal (Text.bytes (toString n)) := by
        simpa using Literal.positive (whole_toString n).1 .none .none
      exact literal
  | negSucc n =>
      rw [ofInt_negSucc]
      simpa using Literal.negative (whole_toString (n + 1)).1 .none .none

/-- An integer that was written is read as it was. -/
theorem read_ofInt (fits : Fits64 i) (bounded : Bounded rest) :
    ∃ number, read (ofInt i ++ rest) = .ok (number, rest) ∧ number.toInt? = some i := by
  cases i with
  | ofNat n =>
      obtain ⟨first, value⟩ := whole_toString n
      have high : n ≤ maxNatural := Int.ofNat_le.mp fits.high
      rw [← value] at high
      exact ⟨_, first.read_natural bounded high, congrArg (fun n : Nat => some (n : Int)) value⟩
  | negSucc n =>
      obtain ⟨first, value⟩ := whole_toString (n + 1)
      have low : digitsValue (Text.bytes (toString (n + 1))) ≤ maxNegative := by
        have := fits.low
        omega
      rw [ofInt_negSucc]
      refine ⟨_, first.read_negative bounded (by omega) low, ?_⟩
      rw [value]
      rfl

end Json.Number

end Provision
