import StageScript.Fault
import StageScript.Keyword
import StageScript.Text.Quoted

/-!
# Labels

A line may start with a label in brackets: `[NAME]: command`, where the colon and the command may be
left out. What stands in the brackets has no colon; otherwise the line has no label. A label is made
of capital letters, digits, underscores and dashes.
-/

namespace StageScript

open Text

/-- A line with a label: the name and the command behind it. -/
structure LabelLine where
  name : String
  command : List Char
deriving DecidableEq, Repr

namespace LabelLine

/-- Whether a label can hold the character. -/
def isLabelChar (c : Char) : Bool := c.isUpper || c.isDigit || c = '_' || c = '-'

/-- Whether the text can be a label. -/
def isLabelName (name : List Char) : Bool := !name.isEmpty && name.all isLabelChar

/-- What stands between the brackets at the start of a line, and what stands behind them. A label
line goes on to the end of the text, so there is no line feed behind the brackets. -/
def brackets? (line : List Char) : Option (List Char × List Char) :=
  match trimStart line with
  | '[' :: cs =>
    let inner := cs.takeWhile fun c => c ≠ ']' && c ≠ ':'
    match cs.dropWhile fun c => c ≠ ']' && c ≠ ':' with
    | ']' :: rest => if rest.contains '\n' then none else some (inner, rest)
    | _ => none
  | _ => none

/-- The text behind a colon, if there is one. -/
def dropColon : List Char → List Char
  | ':' :: cs => cs
  | cs => cs

/-- The label line of a text that is the line `index`, if it has a label. -/
def ofLine? (line : List Char) (index : Nat) : Except Fault (Option LabelLine) :=
  match brackets? line with
  | none => .ok none
  | some (inner, rest) =>
    let name := trim inner
    let word := String.ofList name
    if !isLabelName name then .error (.on index (.invalidLabel word))
    else if word ≠ startLabel && isReserved word then .error (.on index (.reservedLabel word))
    else .ok (some ⟨word, trim (dropColon (trimStart rest))⟩)

end LabelLine

end StageScript
