/-!
# Classes of characters as ranges

A class of characters is a list of closed ranges of code points.
-/

namespace StageScript.Text

/-- Whether the character lies in one of the closed ranges. -/
def inRanges (ranges : List (Nat × Nat)) (c : Char) : Bool :=
  ranges.any fun range => range.1 ≤ c.toNat && c.toNat ≤ range.2

end StageScript.Text
