/-! # Bytes of a text

Wire texts and stored states are sequences of bytes. A text is valid UTF-8 by construction, a
byte sequence is a text only if it is valid. Main statement: reading the bytes of a text gives
that text back. -/

namespace Provision

/-- A sequence of bytes. -/
abbrev Bytes := List UInt8

namespace Text

/-- The UTF-8 bytes of a text. -/
def bytes (s : String) : Bytes := s.toByteArray.data.toList

/-- The text with these UTF-8 bytes, unless they are invalid. -/
def ofBytes? (b : Bytes) : Option String := String.fromUTF8? ⟨b.toArray⟩

/-- The number of bytes in front of the first that belongs to no valid UTF-8 sequence. -/
def validLength (b : Bytes) : Nat :=
  ((List.range (b.length + 1)).reverse.find? fun n => (ofBytes? (b.take n)).isSome).getD 0

@[simp] theorem ofBytes?_bytes (s : String) : ofBytes? (bytes s) = some s := by
  simp [ofBytes?, bytes, String.fromUTF8?, String.fromUTF8, s.isValidUTF8]

end Text

end Provision
