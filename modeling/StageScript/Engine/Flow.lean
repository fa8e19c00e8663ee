import StageScript.Engine.Slot

/-!
# Commands that steer the run

Jumps, calls and branches. `GO-TO` keeps the scope of the caller; `DO` runs its target in a new
scope that holds only its bindings. A binding that is a bare variable makes its name stand for the
cell of that variable; every other binding is set to the value. A branch is run in place of its
`IF`.
-/

namespace StageScript.Context

variable (program : Program) (settle : Settle) (ctx : Context)

/-- Jumps to a label in the same scope. -/
def goTo : Run Outcome := do
  let line ← ctx.labelTarget program 0
  return .jump ⟨.goTo, line, ctx.scope⟩

/-- Adds one binding to the scope of a call. -/
def bindArgument (scope : ScopeId) (binding : String × Param) : Run Unit := do
  match binding.2.variableName? with
  | some source =>
    let cell ← ctx.resolve source
    Run.bind scope binding.1 cell
  | none =>
    let v ← evaluate program settle ctx binding.2
    Run.setIn scope binding.1 v

/-- Adds bindings to the scope of a call, in the order written. -/
def bindArguments (scope : ScopeId) : List (String × Param) → Run Unit
  | [] => pure ()
  | binding :: rest => do
    ctx.bindArgument program settle scope binding
    bindArguments scope rest

/-- Calls a label in a new scope. -/
def call : Run Outcome := do
  let line ← ctx.labelTarget program 0
  let scope ← Run.newScope
  match ctx.param 1 with
  | .bindings list => ctx.bindArguments program settle scope list
  | _ => pure ()
  return .jump ⟨.call, line, scope⟩

/-- Is replaced by one of two commands. -/
def branch (negated : Bool) : Run Outcome := do
  let condition ← ctx.boolean program settle 0
  match (ctx.param (if condition != negated then 1 else 2)).command? with
  | some c => return .tailCall c
  | none => return .unit

/-- Sends the value of its slot as a signal. -/
def sendValue (signal : Value → Signal) : Run Outcome := do
  let v ← ctx.value program settle 0
  return .signal (signal v)

end StageScript.Context
