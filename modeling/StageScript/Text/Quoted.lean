import StageScript.Text.Blank
import StageScript.Text.UpperCase

/-!
# Text with string literals

A double quote opens a string literal and the next one closes it; there is no escape. The functions
here treat a line by what stands outside its literals: fold the letters to capitals, find a piece of
text, cut off a comment, split at semicolons. Each walks the characters once and remembers only
whether it is inside a literal.
-/

namespace StageScript.Text

/-- The character that opens and closes a string literal. -/
def quote : Char := '"'

/-- Upper-cases everything outside string literals; `inside` says whether the first character is
inside one. -/
def foldFrom (inside : Bool) : List Char → List Char
  | [] => []
  | c :: cs =>
    if c = quote then c :: foldFrom (!inside) cs
    else if inside then c :: foldFrom inside cs
    else capitals c ++ foldFrom inside cs

/-- Upper-cases everything outside string literals. -/
def foldCase (line : List Char) : List Char := foldFrom false line

/-- The offset in bytes of the first place outside string literals where `needle` starts, counted
from `offset`. -/
def findFrom (needle : List Char) (inside : Bool) (offset : Nat) : List Char → Option Nat
  | [] => none
  | c :: cs =>
    if c = quote then findFrom needle (!inside) (offset + c.utf8Size) cs
    else if !inside && needle.isPrefixOf (c :: cs) then some offset
    else findFrom needle inside (offset + c.utf8Size) cs

/-- The offset in bytes of the first place outside string literals where `needle` starts. An empty
needle is found nowhere. -/
def findOutside (needle line : List Char) : Option Nat :=
  if needle.isEmpty then none else findFrom needle false 0 line

/-- The part before the first `#` outside string literals. -/
def uncommentedFrom (inside : Bool) : List Char → List Char
  | [] => []
  | c :: cs =>
    if c = quote then c :: uncommentedFrom (!inside) cs
    else if !inside && c = '#' then []
    else c :: uncommentedFrom inside cs

/-- The line without its comment. -/
def stripComment (line : List Char) : List Char := uncommentedFrom false line

/-- The pieces between the semicolons outside string literals: the first piece and the others. -/
def piecesFrom (inside : Bool) : List Char → List Char × List (List Char)
  | [] => ([], [])
  | c :: cs =>
    let inside' := if c = quote then !inside else inside
    let (first, others) := piecesFrom inside' cs
    if c = ';' && !inside then ([], first :: others) else (c :: first, others)

/-- The statements of a line. A line without a semicolon is one statement, blank or not; of the
pieces of a divided line the blank ones are dropped. -/
def splitStatements (line : List Char) : List (List Char) :=
  match piecesFrom false line with
  | (first, []) => [first]
  | (first, others) => (first :: others).filter fun piece => !allBlank piece

/-! ### Offsets -/

/-- The length in bytes. -/
def byteLength (cs : List Char) : Nat := cs.foldr (fun c n => c.utf8Size + n) 0

/-- The text from the byte offset `offset` on. -/
def dropBytes : Nat → List Char → List Char
  | _, [] => []
  | 0, cs => cs
  | offset, c :: cs => dropBytes (offset - c.utf8Size) cs

end StageScript.Text
