import Provision.Text.Inspect

/-! # Parts of a text by offset

The ends of a part are given as offsets in bytes from the start of the text. An end has to lie
between two characters or at an end of the text. -/

namespace Provision.Text

/-- An offset that lies inside a character. -/
structure Misplaced where
  offset : Nat
  /-- Where the character starts. -/
  start : Nat
  character : Char
  deriving DecidableEq, Repr

/-- The wording of a misplaced start or end. -/
def Misplaced.message (misplaced : Misplaced) (name : String) : String :=
  name ++ " byte index " ++ toString misplaced.offset ++
    " is not a char boundary; it is inside '" ++ inspectChar misplaced.character ++ "' (bytes " ++
    toString misplaced.start ++ ".." ++
    toString (misplaced.start + misplaced.character.utf8Size) ++ " of string)"

/-- Divides a text that starts at a position, at an offset from the same origin. -/
def divide (offset : Nat) : Nat → List Char → Except Misplaced (List Char × List Char)
  | _, [] => .ok ([], [])
  | position, c :: rest =>
    if offset ≤ position then .ok ([], c :: rest)
    else if offset < position + c.utf8Size then .error ⟨offset, position, c⟩
    else
      (divide offset (position + c.utf8Size) rest).map fun (front, back) => (c :: front, back)

/-- The part of a text from an offset on. -/
def partFrom (text : List Char) (start : Nat) : Except String (List Char) :=
  match divide start 0 text with
  | .ok (_, back) => .ok back
  | .error misplaced => .error (misplaced.message "start")

/-- The part of a text between two offsets. -/
def part (text : List Char) (start stop : Nat) : Except String (List Char) := do
  let back ← partFrom text start
  match divide stop start back with
  | .ok (front, _) => return front
  | .error misplaced => throw (misplaced.message "end")

end Provision.Text
