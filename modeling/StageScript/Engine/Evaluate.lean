import StageScript.Engine.Basic
import StageScript.Engine.Operator

/-!
# Evaluating params

A param is evaluated from left to right. A nested command is run to its final result, which must be
a value; how that is done is handed in as `settle`. In a collection of characters or entities a name
that is not set and a text stand for the object of that name in the directory.

The meaning of an ambiguous operator is chosen when its left operand is first known, before the
right one is evaluated, and holds from then on.
-/

namespace StageScript

variable (program : Program) (settle : Settle) (ctx : Context)

/-- The object of an element kind that a key names. -/
def Context.directoryObject (element : ElementKind) (key : String) : Run Value :=
  match program.directory.object? element key with
  | some o => pure (.object o)
  | none => ctx.fail (.objectNotFound element key)

/-- A collection of these items. -/
def Context.typed (element : ElementKind) (items : List Value) : Run Value :=
  match Collection.typed element items with
  | .ok c => pure c.toValue
  | .error f => Run.fail (f.atLine ctx.line)

/-- Every object of an element kind. -/
def Context.allObjects (element : ElementKind) : Run Value :=
  match program.directory.objects? element with
  | some objects => ctx.typed element (objects.map .object)
  | none => ctx.fail (.wrongList element)

/-- An item of a collection after its evaluation. -/
def Context.itemValue (element : ElementKind) (v : Value) : Run Value :=
  match v with
  | .text key => if element.isObject then ctx.directoryObject program element key else pure v
  | _ => pure v

/-- The name of an object that is written where an item is expected: a variable that is not set. -/
def Context.bareObject? (element : ElementKind) (item : Param) : Run (Option String) := do
  match item.variableName? with
  | some name =>
    if element.isObject && (← ctx.lookUp? name).isNone then return some name else return none
  | none => return none

/-- Whether two params are names of one cell. -/
def Context.sameCell (left right : Param) : Run Bool := do
  match left.variableName?, right.variableName? with
  | some a, some b =>
    match ← ctx.lookUp? a, ← ctx.lookUp? b with
    | some x, some y => return x = y
    | _, _ => return false
  | _, _ => return false

/-- The meaning of an ambiguous operator, chosen now if it was not before. -/
def Context.choice (place : Occurrence) (left : Value) : Run Choice := do
  match (← get).choice? place with
  | some choice => return choice
  | none =>
    let choice ← Run.ofExcept ctx.line (Operator.choose place.operator left)
    modify (·.choose place choice)
    return choice

/-- The truth of an operand; `connected` says whether it is one of `AND` or `OR`. -/
def Context.truth (connected : Bool) (v : Value) : Run Bool :=
  Run.ofExcept ctx.line (Operator.truth connected v)

mutual

/-- **The value of a param.** -/
def evaluate : Param → Run Value
  | .value v => pure v
  | .variable name => do
    let cell ← ctx.resolve name
    Run.read cell
  | .loopIndex =>
    match ctx.loopIndex with
    | some index => pure (.number index)
    | none => ctx.fail .loopIndexUnbound
  | .loopObject => ctx.fail .loopObject
  | .command c => do
    match ← settle ctx c with
    | .value v => return v
    | .signal s => ctx.fail (.signalAsValue c.name s)
  | .bindings _ => ctx.fail .bindingsAsValue
  | .collection element bare all items => do
    if all then ctx.allObjects program element
    else
      let values ← evaluateItems element items
      match bare, values with
      | true, [.collection inner items] => return .collection inner items
      | _, _ => ctx.typed element values
  | .math operator left right => do
    let left ← evaluate left
    let right ← evaluateOption right
    Run.ofExcept ctx.line (Operator.math operator left right)
  | .concat left right => do
    let left ← evaluate left
    let right ← evaluate right
    Run.ofExcept ctx.line (Operator.concat left right)
  | .union left right => do
    let left ← evaluate left
    let right ← evaluate right
    Run.ofExcept ctx.line (Operator.union left right)
  | .difference left right => do
    let left ← evaluate left
    let right ← evaluate right
    Run.ofExcept ctx.line (Operator.difference left right)
  | .condition comparator left right => do
    match comparator with
    | .identity =>
      let x ← evaluate left
      let b ← ctx.truth false x
      return .boolean b
    | .not =>
      let x ← evaluate left
      let b ← ctx.truth false x
      return .boolean !b
    | .and =>
      let x ← evaluate left
      if ← ctx.truth true x then
        let y ← evaluateOption right
        let b ← ctx.truth true y
        return .boolean b
      else return .boolean false
    | .or =>
      let x ← evaluate left
      if ← ctx.truth true x then return .boolean true
      else
        let y ← evaluateOption right
        let b ← ctx.truth true y
        return .boolean b
    | .equals =>
      if ← ctx.sameCell left (right.getD .absent) then return .boolean true
      else
        let x ← evaluate left
        let y ← evaluateOption right
        return .boolean (x == y)
    | .greaterThan =>
      let x ← evaluate left
      let y ← evaluateOption right
      let b ← Run.ofExcept ctx.line (Operator.ordered true x y)
      return .boolean b
    | .lessThan =>
      let x ← evaluate left
      let y ← evaluateOption right
      let b ← Run.ofExcept ctx.line (Operator.ordered false x y)
      return .boolean b
  | .ambiguous place left right => do
    let left ← evaluate left
    let choice ← ctx.choice place left
    let right ← evaluate right
    Run.ofExcept ctx.line (Operator.apply choice left right)
  | .absent => pure .unit
termination_by structural p => p

/-- The value of an operand that may be left out. -/
def evaluateOption : Option Param → Run Value
  | none => pure .unit
  | some p => evaluate p
termination_by structural p => p

/-- The items of a collection. -/
def evaluateItems (element : ElementKind) : List Param → Run (List Value)
  | [] => pure []
  | item :: items => do
    let v ← match ← ctx.bareObject? element item with
      | some key => ctx.directoryObject program element key
      | none => do
        let v ← evaluate item
        ctx.itemValue program element v
    let vs ← evaluateItems element items
    return v :: vs
termination_by structural items => items

end

end StageScript
