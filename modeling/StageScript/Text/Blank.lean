import StageScript.Text.CharRange

/-!
# White space

The white space of all scripts, and trimming by it.
-/

namespace StageScript.Text

/-- The white-space characters, as closed ranges in increasing order. -/
def blankRanges : List (Nat × Nat) := [
  (0x9, 0xD), (0x20, 0x20), (0x85, 0x85), (0xA0, 0xA0), (0x1680, 0x1680), (0x2000, 0x200A),
  (0x2028, 0x2029), (0x202F, 0x202F), (0x205F, 0x205F), (0x3000, 0x3000)]

/-- Whether the character is white space. -/
def isBlank (c : Char) : Bool := inRanges blankRanges c

/-- Whether a text holds nothing but white space. -/
def allBlank (cs : List Char) : Bool := cs.all isBlank

/-- Without the white space in front. -/
def trimStart (cs : List Char) : List Char := cs.dropWhile isBlank

/-- Without the elements at the end that satisfy `p`. -/
def dropWhileEnd (p : Char → Bool) (cs : List Char) : List Char := (cs.reverse.dropWhile p).reverse

/-- Without the white space on either side. -/
def trim (cs : List Char) : List Char := dropWhileEnd isBlank (trimStart cs)

end StageScript.Text
