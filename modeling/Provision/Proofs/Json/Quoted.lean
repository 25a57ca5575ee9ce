import Provision.Json.Quoted

/-! # Quoted strings are read back

Every byte of a string is written so that reading it gives the byte again: the quote, the backslash and
the control characters as escapes, all others as they are.
-/

namespace Provision.Json.Quoted

theorem hexQuad?_control {b : UInt8} (control : b < 0x20) :
    hexQuad? 0x30 0x30 (hexDigit (b / 16)) (hexDigit (b % 16)) = some b.toNat := by
  have all : ∀ n < 32, hexQuad? 0x30 0x30 (hexDigit (UInt8.ofNat n / 16)) (hexDigit (UInt8.ofNat n % 16)) =
      some n := by decide
  have known := all b.toNat (by simpa [UInt8.lt_iff_toNat_lt] using control)
  rwa [UInt8.ofNat_toNat] at known

theorem pointBytes_control {b : UInt8} (control : b < 0x20) : pointBytes b.toNat = [b] := by
  have all : ∀ n < 32, pointBytes n = [UInt8.ofNat n] := by decide
  have known := all b.toNat (by simpa [UInt8.lt_iff_toNat_lt] using control)
  rwa [UInt8.ofNat_toNat] at known

theorem readBytes_letter {c e : UInt8} (letter : c ≠ letterU) (stands : ofEscape? c = some e)
    (rest : Bytes) : readBytes (backslash :: c :: rest) = prepend [e] (readBytes rest) := by
  rw [readBytes.eq_def]
  simp [letter, stands, show backslash ≠ quoteByte by decide]

theorem readBytes_control {b : UInt8} (control : b < 0x20) (rest : Bytes) :
    readBytes (backslash :: letterU :: 0x30 :: 0x30 :: hexDigit (b / 16) :: hexDigit (b % 16) :: rest) =
      prepend [b] (readBytes rest) := by
  have below : b.toNat < 32 := by simpa [UInt8.lt_iff_toNat_lt] using control
  have high : isHighSurrogate b.toNat = false := by simp [isHighSurrogate]; omega
  have low : isLowSurrogate b.toNat = false := by simp [isLowSurrogate]; omega
  rw [readBytes.eq_def]
  simp [hexQuad?_control control, high, low, pointBytes_control control,
    show backslash ≠ quoteByte by decide]

theorem readBytes_plain {b : UInt8} (quote : b ≠ quoteByte) (slash : b ≠ backslash)
    (control : ¬b < 0x20) (rest : Bytes) : readBytes (b :: rest) = prepend [b] (readBytes rest) := by
  rw [readBytes.eq_def]
  simp [quote, slash, control]

theorem readBytes_escapeByte (b : UInt8) (rest : Bytes) :
    readBytes (escapeByte b ++ rest) = prepend [b] (readBytes rest) := by
  unfold escapeByte
  repeat' split
  case isFalse.isFalse.isFalse.isFalse.isFalse.isFalse.isFalse.isTrue control =>
    exact readBytes_control control rest
  case isFalse.isFalse.isFalse.isFalse.isFalse.isFalse.isFalse.isFalse control =>
    exact readBytes_plain ‹_› ‹_› control rest
  all_goals
    subst_vars
    exact readBytes_letter (by decide) rfl rest

theorem readBytes_escape (body rest : Bytes) :
    readBytes (escape body ++ quoteByte :: rest) = .ok (body, rest) := by
  induction body with
  | nil =>
      rw [escape, List.flatMap_nil, List.nil_append, readBytes.eq_def]
      rfl
  | cons b body ih =>
      rw [escape, List.flatMap_cons, ← escape, List.append_assoc, readBytes_escapeByte, ih]
      rfl

/-- A string that was written is read as it was. -/
theorem read_escape (s : String) (rest : Bytes) :
    read (escape (Text.bytes s) ++ quoteByte :: rest) = .ok (s, rest) := by
  simp [read, readBytes_escape]

end Provision.Json.Quoted
