import StageScript.Grammar.Operand

/-!
# Expressions and conditions

Arithmetic binds from the left and without precedence. Conditions bind, loosest first: `|`, `&`,
comparisons, and `NOT` in front of an operand. In a collection and in a list of bindings `&` and
`AND` separate the items.

Every parser of this module is built over the parser of a primary, which is handed to it. It is
asked for primaries at the place where the expression starts and behind each operator.
-/

namespace StageScript

/-- A collection written as a single operand without brackets. -/
def bareCollection (element : ElementKind) (item : Param) : Param :=
  .collection element true false [item]

/-- A union or a difference. -/
def setOperation (additive : Bool) (left right : Param) : Param :=
  if additive then .union left right else .difference left right

namespace Line

variable (line : Line) (primary : Tokens → Except Fault (Operand × Tokens))

/-! ### Values -/

/-- The right operand of a union or difference: a collection in brackets, or a single operand. -/
def setOperand (ts : Tokens) : Except Fault (Param × Tokens) := do
  let (operand, rest) ← primary ts
  if ts.nextIs (·.isSymbol '[') then return (operand.param, rest)
  else return (bareCollection .any operand.param, rest)

/-- Reads on behind an operator. -/
def foldStep (left : Operand) (fold : Fold) (ts : Tokens) : Except Fault (Operand × Tokens) :=
  match fold with
  | .math .squared => .ok (⟨.math .squared left.param none, .number⟩, ts)
  | .math operator => do
    let (right, ts) ← primary ts
    return (⟨.math operator left.param (some right.param), .number⟩, ts)
  | .concat => do
    let (right, ts) ← primary ts
    return (⟨.concat left.param right.param, .text⟩, ts)
  | .set additive => do
    let (right, ts) ← setOperand primary ts
    return (⟨setOperation additive left.param right, .collection⟩, ts)
  | .ambiguous operator column => do
    let (right, ts) ← primary ts
    return (⟨.ambiguous ⟨operator, line.number, column⟩ left.param right.param, .unknown⟩, ts)

/-- A value expression: primaries joined by operators. -/
def valueExpr (reading : Reading) (ts : Tokens) : Except Fault (Operand × Tokens) := do
  let (left, ts) ← primary ts
  chain (fold? reading) (foldStep line primary) ts.length left ts

/-! ### Conditions -/

/-- An operand of a comparison, with any number of negations in front. -/
def negated : Tokens → Except Fault (Param × Tokens)
  | [] => do
    let (operand, ts) ← valueExpr line primary .logical []
    return (operand.param, ts)
  | t :: ts =>
    if isNot t.kind then do
      let (inner, ts) ← negated ts
      return (.condition .not inner none, ts)
    else do
      let (operand, ts) ← valueExpr line primary .logical (t :: ts)
      return (operand.param, ts)

/-- The comparison behind an operand. -/
def comparisonSign? (_ : Param) : Tokens → Option (Comparator × Tokens)
  | [] => none
  | t :: ts => (comparator? t.kind).map (·, ts)

/-- Comparisons behind an operand. -/
def comparisonsFrom (left : Param) (ts : Tokens) : Except Fault (Param × Tokens) :=
  chain comparisonSign? (fun left comparator ts => do
    let (right, ts) ← negated line primary ts
    return (.condition comparator left (some right), ts)) ts.length left ts

/-- Comparisons. In a collection or a list of bindings this is an item. -/
def comparisons (ts : Tokens) : Except Fault (Param × Tokens) := do
  let (left, ts) ← negated line primary ts
  comparisonsFrom line primary left ts

/-- The tokens behind a connective. -/
def connective? (p : TokenKind → Bool) (_ : Param) (ts : Tokens) : Option (Unit × Tokens) :=
  (ts.eat? p).map ((), ·)

/-- Comparisons joined by `AND`, the first of which was read before. -/
def conjunctionFrom (left : Param) (ts : Tokens) : Except Fault (Param × Tokens) :=
  chain (connective? isAnd) (fun left _ ts => do
    let (right, ts) ← comparisons line primary ts
    return (.condition .and left (some right), ts)) ts.length left ts

/-- Comparisons joined by `AND`. -/
def conjunction (ts : Tokens) : Except Fault (Param × Tokens) := do
  let (left, ts) ← comparisons line primary ts
  conjunctionFrom line primary left ts

/-- Conjunctions joined by `OR`, the first of which was read before. -/
def disjunctionFrom (left : Param) (ts : Tokens) : Except Fault (Param × Tokens) :=
  chain (connective? isOr) (fun left _ ts => do
    let (right, ts) ← conjunction line primary ts
    return (.condition .or left (some right), ts)) ts.length left ts

/-- Conjunctions joined by `OR`. -/
def disjunction (ts : Tokens) : Except Fault (Param × Tokens) := do
  let (left, ts) ← conjunction line primary ts
  disjunctionFrom line primary left ts

/-- The rest of a condition whose first operand was read before. -/
def conditionFrom (left : Param) (ts : Tokens) : Except Fault (Param × Tokens) := do
  let (left, ts) ← comparisonsFrom line primary left ts
  let (left, ts) ← conjunctionFrom line primary left ts
  disjunctionFrom line primary left ts

/-! ### Slots -/

/-- Whether a condition goes on behind a value. -/
def conditionFollows (ts : Tokens) : Bool :=
  ts.nextIs fun t => (comparator? t).isSome || isOr t

/-- A slot for any value: an expression, which turns into a condition when a comparison or `OR`
follows, or when it is a truth value. -/
def valueSlot (ts : Tokens) : Except Fault (Param × Tokens) :=
  if ts.nextIs startsCondition then disjunction line primary ts
  else do
    let (left, ts) ← valueExpr line primary .value ts
    if left.kind = .boolean || conditionFollows ts then conditionFrom line primary left.param ts
    else return (left.param, ts)

/-- A slot for a condition. A single operand is tested for its own truth. -/
def conditionSlot (ts : Tokens) : Except Fault (Param × Tokens) := do
  let (condition, ts) ← disjunction line primary ts
  if condition.isCondition then return (condition, ts)
  else return (.condition .identity condition none, ts)

/-! ### Collections -/

/-- The tokens behind `ALL]` or `*]`. -/
def allOf? : Tokens → Option Tokens
  | t :: u :: ts =>
    if (t.kind.isSymbol '*' || t.kind.isWord "ALL") && u.kind.isSymbol ']' then some ts else none
  | _ => none

/-- A collection behind its opening bracket. -/
def collectionLiteral (element : ElementKind) (ts : Tokens) : Except Fault (Param × Tokens) :=
  match allOf? ts with
  | some ts =>
    if element.isObject then .ok (.collection element false true [], ts)
    else .error (line.fault (.allUnsupported element))
  | none =>
    match ts.eat? (·.isSymbol ']') with
    | some ts => .ok (.collection element false false [], ts)
    | none => do
      let (items, ts) ←
        separated line .unterminatedCollection (comparisons line primary) ts.length ts
      return (.collection element false false items, ts)

/-- An operand of a collection slot: a collection in brackets, or a single operand. -/
def collectionOperand (element : ElementKind) (ts : Tokens) : Except Fault (Param × Tokens) :=
  match ts.eat? (·.isSymbol '[') with
  | some ts => collectionLiteral line primary element ts
  | none => do
    let (operand, ts) ← primary ts
    return (bareCollection element operand.param, ts)

/-- Whether a token unites (`true`) or subtracts (`false`). -/
def setSign? : TokenKind → Option Bool
  | .symbol '+' | .symbol '&' | .word "WITH" | .word "PLUS" | .word "AND" => some true
  | .symbol '-' | .word "WITHOUT" | .word "MINUS" => some false
  | _ => none

/-- The union or difference behind an operand. -/
def setOperator? (_ : Param) : Tokens → Option (Bool × Tokens)
  | [] => none
  | t :: ts => (setSign? t.kind).map (·, ts)

/-- A slot for a collection: operands joined by unions and differences. -/
def collectionSlot (element : ElementKind) (ts : Tokens) : Except Fault (Param × Tokens) := do
  let (left, ts) ← collectionOperand line primary element ts
  chain setOperator? (fun left additive ts => do
    let (right, ts) ← collectionOperand line primary element ts
    return (setOperation additive left right, ts)) ts.length left ts

end Line

end StageScript
