import StageScript.Command.Registry
import StageScript.Syntax.Param
import StageScript.Token.Lexer

/-!
# Reading a line token by token

A parser takes the tokens that are left and returns what it read with the tokens behind it, or a
fault on the line. This module holds what all parsers share: looking at the next token, the faults
for a missing or unexpected one, and the two ways in which the grammar repeats, chains of operators
and lists with separators.
-/

namespace StageScript

/-- A line that is being read against a registry. -/
structure Line where
  registry : Registry
  text : List Char
  number : Nat

/-- The tokens that are left. -/
abbrev Tokens := List Token

namespace Tokens

/-- Whether the next token satisfies `p`. -/
def nextIs (p : TokenKind → Bool) : Tokens → Bool
  | [] => false
  | t :: _ => p t.kind

/-- The tokens behind the next one if it satisfies `p`. -/
def eat? (p : TokenKind → Bool) : Tokens → Option Tokens
  | [] => none
  | t :: ts => if p t.kind then some ts else none

/-- The tokens behind the symbol, if it comes next; otherwise all of them. -/
def skipSymbol (c : Char) (ts : Tokens) : Tokens := (ts.eat? (·.isSymbol c)).getD ts

/-- Whether a param cannot start here. -/
def atParamEnd : Tokens → Bool
  | [] => true
  | t :: _ => match t.kind with
    | .symbol c => c == ':' || c == ')' || c == ']' || c == ','
    | _ => false

end Tokens

namespace Line

/-- A fault on the line. -/
def fault (line : Line) (cause : Cause) : Fault := .on line.number cause

/-- The text from a token on, without white space around it. -/
def textFrom (line : Line) (t : Token) : String :=
  String.ofList (Text.trim (Text.dropBytes t.start line.text))

/-- The fault for something else than what was expected. -/
def expected (line : Line) (what : String) : Tokens → Fault
  | [] => line.fault (.missing what)
  | t :: _ => line.fault (.unexpected what (line.textFrom t))

/-- The next token if it is a word. -/
def word (line : Line) (what : String) (ts : Tokens) : Except Fault (String × Tokens) :=
  match ts with
  | ⟨.word s, _, _⟩ :: rest => .ok (s, rest)
  | _ => .error (line.expected what ts)

end Line

/-! ### Repetition -/

/-- A chain of operators, joined from the left: as long as `operator?` finds one behind what was
read so far, `step` reads on. Every pass takes a token, so `budget` is the number of tokens. -/
def chain {α β : Type} (operator? : α → Tokens → Option (β × Tokens))
    (step : α → β → Tokens → Except Fault (α × Tokens)) :
    Nat → α → Tokens → Except Fault (α × Tokens)
  | 0, left, ts => .ok (left, ts)
  | budget + 1, left, ts =>
    match operator? left ts with
    | none => .ok (left, ts)
    | some (operator, ts) => do
      let (left, ts) ← step left operator ts
      chain operator? step budget left ts

/-- The tokens behind a separator of a list. -/
def separator? (ts : Tokens) : Option Tokens :=
  ts.eat? fun t => t.isSymbol ',' || t.isSymbol '&' || t.isWord "AND"

/-- The tokens behind the closing bracket of a list. -/
def Line.closing (line : Line) (unterminated : Cause) (ts : Tokens) : Except Fault Tokens :=
  match ts.eat? (·.isSymbol ']') with
  | some ts => .ok ts
  | none =>
    if ts.isEmpty then .error (line.fault unterminated)
    else .error (line.expected "',' or ']'" ts)

/-- Items with separators between them, at least one, up to the closing bracket. An item is asked
for even where no token is left, so that it says what is missing. Every separator is a token, so
`budget` is the number of tokens. -/
def separated {α : Type} (line : Line) (unterminated : Cause)
    (item : Tokens → Except Fault (α × Tokens)) :
    Nat → Tokens → Except Fault (List α × Tokens)
  | 0, ts => do
    let (last, ts) ← item ts
    let ts ← line.closing unterminated ts
    return ([last], ts)
  | budget + 1, ts => do
    let (first, ts) ← item ts
    match separator? ts with
    | some ts =>
      let (others, ts) ← separated line unterminated item budget ts
      return (first :: others, ts)
    | none =>
      let ts ← line.closing unterminated ts
      return ([first], ts)

end StageScript
