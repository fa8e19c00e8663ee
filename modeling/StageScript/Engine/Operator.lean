import StageScript.Store.State
import StageScript.Value.Collection

/-!
# Operators on values

The operators of the language as functions of values. Each says why it cannot be applied, naming
the operator and the kind of the operand at fault.
-/

namespace StageScript.Operator

/-- Refuses an operand. -/
def refuse {α : Type} (operator : String) (v : Value) : Except Cause α :=
  .error (.unsupportedOperator operator v.kind)

/-- Arithmetic; the left operand is looked at first. -/
def math (operator : MathOperator) (left right : Value) : Except Cause Value :=
  match left.asNumber? with
  | none => refuse operator.symbol left
  | some x =>
    if operator.isUnary then .ok (.ofFloat (operator.apply x.float 0.0))
    else match right.asNumber? with
      | none => refuse operator.symbol right
      | some y => .ok (.ofFloat (operator.apply x.float y.float))

/-- A text with the text of any value behind it. -/
def concat (left right : Value) : Except Cause Value :=
  match left with
  | .text s => .ok (.text (s ++ right.display))
  | _ => refuse "+" left

/-- The two collections of an operator; the left operand is looked at first. -/
def collections (operator : String) (left right : Value) : Except Cause (Collection × Collection) :=
  match left.asCollection?, right.asCollection? with
  | none, _ => refuse operator left
  | _, none => refuse operator right
  | some a, some b => .ok (a, b)

/-- The union of two collections. -/
def union (left right : Value) : Except Cause Value := do
  let (a, b) ← collections "WITH" left right
  match a.union b with
  | .ok c => return c.toValue
  | .error f => throw f.cause

/-- The difference of two collections. -/
def difference (left right : Value) : Except Cause Value := do
  let (a, b) ← collections "WITHOUT" left right
  return (a.difference b).toValue

/-- Whether both operands are true. -/
def both (left right : Value) : Except Cause Value :=
  match left, right with
  | .boolean a, .boolean b => .ok (.boolean (a && b))
  | _, _ => refuse "AND" right

/-- The meaning of an ambiguous operator behind a left operand. -/
def choose (operator : AmbiguousOperator) (left : Value) : Except Cause Choice :=
  match left, operator with
  | .number _, .plus => .ok .add
  | .number _, .minus => .ok .subtract
  | .text _, .plus => .ok .concat
  | .collection _ _, .plus => .ok .union
  | .collection _ _, .minus => .ok .difference
  | .boolean _, .plus => .ok .and
  | v, operator => refuse operator.symbol v

/-- The operator that was chosen. -/
def apply : Choice → Value → Value → Except Cause Value
  | .add => math .plus
  | .subtract => math .minus
  | .concat => concat
  | .union => union
  | .difference => difference
  | .and => both

/-- The order of two numbers. -/
def ordered (greater : Bool) (left right : Value) : Except Cause Bool :=
  match left.asNumber?, right.asNumber? with
  | some x, some y => .ok (if greater then y.float < x.float else x.float < y.float)
  | _, _ => .error (.unordered left.kind right.kind)

/-- The truth of an operand; `connected` says whether it is one of `AND` or `OR`. -/
def truth (connected : Bool) (v : Value) : Except Cause Bool :=
  match v.asBool? with
  | some b => .ok b
  | none => .error (if connected then .notALogicalOperand v.kind else .notACondition v.kind)

end StageScript.Operator
