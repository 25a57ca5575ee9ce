/-! # Ranges of code points

A class of characters is a list of ranges in ascending order, both ends included. -/

namespace Provision.Text

/-- Whether a number lies in one of several ascending ranges. -/
def inRanges (n : Nat) : List (Nat × Nat) → Bool
  | [] => false
  | (low, high) :: rest => if n < low then false else n ≤ high || inRanges n rest

end Provision.Text
