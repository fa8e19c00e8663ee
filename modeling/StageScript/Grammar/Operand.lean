import StageScript.Grammar.Basic

/-!
# Operands and their kinds

Every expression gets a static kind, as far as it can be told before running it. The kind decides
what an operator behind the expression means: `+` adds behind a number, joins behind a text, unites
behind a collection, and stays open behind an operand of unknown kind.
-/

namespace StageScript

/-- The kind of an expression, as far as it is known before running. -/
inductive StaticKind where
  | number
  | text
  | boolean
  | collection
  | unknown
deriving DecidableEq, Repr

/-- The static kind of values of a kind. -/
def StaticKind.ofValueKind : ValueKind → StaticKind
  | .number => .number
  | .text => .text
  | .boolean => .boolean
  | .collection => .collection
  | .object | .unit => .unknown

/-- The static kind of what a command gives. -/
def StaticKind.ofCommand (registry : Registry) (name : String) : StaticKind :=
  match (registry.signature? name).bind (·.returns) with
  | some kind => .ofValueKind kind
  | none => .unknown

/-- The static kind of a param. -/
def StaticKind.ofParam (registry : Registry) : Param → StaticKind
  | .value v => .ofValueKind v.kind
  | .loopIndex => .number
  | .variable _ | .loopObject | .bindings _ | .absent | .ambiguous _ _ _ => .unknown
  | .collection _ _ _ _ | .union _ _ | .difference _ _ => .collection
  | .command c => .ofCommand registry c.name
  | .math _ _ _ => .number
  | .concat _ _ => .text
  | .condition _ _ _ => .boolean

/-- A param with its static kind. -/
structure Operand where
  param : Param
  kind : StaticKind

/-- Whether `&` and `AND` join values or separate and connect conditions. -/
inductive Reading where
  | value
  | logical
deriving DecidableEq, Repr

/-- What an operator token says, before the kind of the left operand is considered. -/
inductive Sign where
  | plus
  | minus
  | math (operator : MathOperator)
  | with
  | without
deriving DecidableEq, Repr

/-- What an operator behind an operand means. -/
inductive Fold where
  | math (operator : MathOperator)
  | concat
  | set (additive : Bool)
  | ambiguous (operator : AmbiguousOperator) (column : Nat)
deriving DecidableEq, Repr

/-- The sign a symbol stands for. -/
def Sign.ofSymbol? (reading : Reading) : Char → Option Sign
  | '+' => some .plus
  | '&' => if reading = .value then some .plus else none
  | '-' => some .minus
  | '*' => some (.math .times)
  | '/' => some (.math .divide)
  | '^' => some (.math .power)
  | '%' => some (.math .modulo)
  | _ => none

/-- The sign a word stands for. -/
def Sign.ofWord? (reading : Reading) (word : String) : Option Sign :=
  match word with
  | "PLUS" => some .plus
  | "AND" => if reading = .value then some .plus else none
  | "MINUS" => some .minus
  | "WITH" => some .with
  | "WITHOUT" => some .without
  | "TIMES" | "X" => some (.math .times)
  | "DIVIDED-BY" => some (.math .divide)
  | "TO-THE-POWER-OF" => some (.math .power)
  | "MODULO" => some (.math .modulo)
  | "SQUARED" => some (.math .squared)
  | _ => none

/-- The sign a token stands for. -/
def Sign.ofToken? (reading : Reading) : TokenKind → Option Sign
  | .symbol c => ofSymbol? reading c
  | .word s => ofWord? reading s
  | _ => none

/-- What a sign at a column means behind an operand of a kind, if anything. -/
def Sign.fold? (sign : Sign) (kind : StaticKind) (column : Nat) : Option Fold :=
  match kind, sign with
  | .number, .plus => some (.math .plus)
  | .number, .minus => some (.math .minus)
  | .number, .math operator => some (.math operator)
  | .text, .plus => some .concat
  | .collection, .plus | .collection, .with => some (.set true)
  | .collection, .minus | .collection, .without => some (.set false)
  | .unknown, .plus => some (.ambiguous .plus column)
  | .unknown, .minus => some (.ambiguous .minus column)
  | .unknown, .with => some (.set true)
  | .unknown, .without => some (.set false)
  | .unknown, .math operator => some (.math operator)
  | _, _ => none

/-- The operator behind an operand. -/
def fold? (reading : Reading) (left : Operand) : Tokens → Option (Fold × Tokens)
  | [] => none
  | t :: ts => do
    let sign ← Sign.ofToken? reading t.kind
    let fold ← sign.fold? left.kind t.start
    return (fold, ts)

/-- The comparison a token stands for. -/
def comparator? : TokenKind → Option Comparator
  | .symbol '=' => some .equals
  | .symbol '>' => some .greaterThan
  | .symbol '<' => some .lessThan
  | .word "EQUALS" => some .equals
  | .word "GREATER-THAN" => some .greaterThan
  | .word "LESS-THAN" => some .lessThan
  | _ => none

/-- Whether a token stands for `OR`. -/
def isOr (t : TokenKind) : Bool := t.isSymbol '|' || t.isWord "OR"

/-- Whether a token stands for `AND`. -/
def isAnd (t : TokenKind) : Bool := t.isSymbol '&' || t.isWord "AND"

/-- Whether a token negates what follows. -/
def isNot (t : TokenKind) : Bool := t.isSymbol '!' || t.isWord "NOT" || t.isWord "NOT-"

/-- Whether an expression that starts with the token is a condition. -/
def startsCondition (t : TokenKind) : Bool := isNot t || t.isWord "TRUE" || t.isWord "FALSE"

end StageScript
