import StageScript.Engine.Slot

/-!
# Commands that repeat a command

A loop runs its body until its test fails; a signal of the body ends it and is handed on. The loops
whose number of passes is not known beforehand take a budget of passes, which is never used up by a
run that ends.
-/

namespace StageScript.Context

variable (program : Program) (settle : Settle) (ctx : Context)

/-- Stops a run that has used up its passes. -/
def exhausted {α : Type} : Run α := throw .outOfFuel

/-- Runs a body once; gives the signal it sends. -/
def pass (body : Command) : Run (Option Signal) := do
  match ← settle ctx body with
  | .value _ => return none
  | .signal s => return some s

/-! ### Loops with a test -/

/-- Runs the body as long as the condition holds, or until it holds. -/
def whileLoop (negated : Bool) (body : Command) : Nat → Run Outcome
  | 0 => exhausted
  | budget + 1 => do
    if (← ctx.boolean program settle 0) != negated then
      match ← pass settle ctx body with
      | some s => return .signal s
      | none => whileLoop negated body budget
    else return .unit

/-- `WHILE` and `UNTIL`. -/
def repeatWhile (budget : Nat) (negated : Bool) : Run Outcome := do
  let body ← ctx.body 1
  ctx.whileLoop program settle negated body budget

/-- The variable a step such as `I + 1` writes back to. -/
def stepTarget : Run String :=
  let left : Option Param := match ctx.param 1 with
    | .math _ left _ => some left
    | .ambiguous _ left _ => some left
    | _ => none
  match left.bind Param.variableName? with
  | some name => pure name
  | none => ctx.fail .wrongStep

/-- Runs the body and then the step as long as the condition holds. -/
def forLoop (target : String) (body : Command) : Nat → Run Outcome
  | 0 => exhausted
  | budget + 1 => do
    if ← ctx.boolean program settle 0 then
      match ← pass settle ctx body with
      | some s => return .signal s
      | none =>
        let next ← ctx.value program settle 1
        let cell ← ctx.resolve target
        Run.write cell next
        forLoop target body budget
    else return .unit

/-- `FOR`. -/
def repeatFor (budget : Nat) : Run Outcome := do
  let body ← ctx.body 2
  let target ← ctx.stepTarget
  ctx.forLoop program settle target body budget

/-! ### Loops that count -/

/-- Runs the body with `LOOP-INDEX` going down from `count - 1` to zero. -/
def countDown (body : Command) : Nat → Run Outcome
  | 0 => pure .unit
  | index + 1 => do
    match ← pass settle (ctx.withLoopIndex (.ofInt index)) body with
    | some s => return .signal s
    | none => countDown body index

/-- Runs the body `count` times with `LOOP-INDEX` going up from `index`. -/
def countUp (body : Command) : (count index : Nat) → Run Outcome
  | 0, _ => pure .unit
  | count + 1, index => do
    match ← pass settle (ctx.withLoopIndex (.ofInt index)) body with
    | some s => return .signal s
    | none => countUp body count (index + 1)

/-- `COUNTDOWN` and `COUNT-UP`. -/
def counted (descending : Bool) : Run Outcome := do
  let count := (← ctx.number program settle 0).int.toNat
  let body ← ctx.body 1
  if descending then ctx.countDown settle body count else ctx.countUp settle body count 0

/-- The number in the cell a loop counts with. -/
def counter (cell : CellId) : Run Float := do
  match ← Run.read cell with
  | .number n => return n.float
  | v => ctx.fail (.wrongCounter ctx.command.name v.kind)

/-- Takes one off the cell and runs the body, until the cell is not above zero. -/
def countdownLoop (cell : CellId) (body : Command) : Nat → Run Outcome
  | 0 => exhausted
  | budget + 1 => do
    let current ← ctx.counter cell
    if current ≤ 0.0 then return .unit
    else
      Run.write cell (.ofFloat (current - 1.0))
      match ← pass settle ctx body with
      | some s => return .signal s
      | none => countdownLoop cell body budget

/-- `COUNTDOWN-WITH`. -/
def countdownWith (budget : Nat) : Run Outcome := do
  let cell ← ctx.cellSlot 0
  let body ← ctx.body 1
  ctx.countdownLoop settle cell body budget

/-- Runs the body and adds one to the cell, as long as it is below `limit`. -/
def countUpLoop (cell : CellId) (limit : Float) (body : Command) : Nat → Run Outcome
  | 0 => exhausted
  | budget + 1 => do
    if (← ctx.counter cell) < limit then
      match ← pass settle ctx body with
      | some s => return .signal s
      | none =>
        let current ← ctx.counter cell
        Run.write cell (.ofFloat (current + 1.0))
        countUpLoop cell limit body budget
    else return .unit

/-- `COUNT-UP-WITH`. -/
def countUpWith (budget : Nat) : Run Outcome := do
  let cell ← ctx.cellSlot 0
  let limit ← ctx.number program settle 1
  let body ← ctx.body 2
  ctx.countUpLoop settle cell limit.float body budget

/-! ### The loop without a test -/

/-- Runs the body until it sends a signal. -/
def alwaysLoop (body : Command) : Nat → Run Outcome
  | 0 => exhausted
  | budget + 1 => do
    match ← pass settle ctx body with
    | some s => return .signal s
    | none => alwaysLoop body budget

/-- `ALWAYS`. -/
def always (budget : Nat) : Run Outcome := do
  let body ← ctx.body 0
  ctx.alwaysLoop settle body budget

end StageScript.Context
