import StageScript.Engine.Slot

/-!
# Commands that set and remove variables

A value is copied when it is set. `SET-HERE` works on the scope of the call level alone, and with a
bare variable it makes the name stand for the cell of that variable.
-/

namespace StageScript.Context

variable (program : Program) (settle : Settle) (ctx : Context)

/-- Sets a variable of a tier. -/
def setVariable (tier : Tier) : Run Outcome := do
  let name ← ctx.name 0
  let v ← ctx.value program settle 1
  ctx.assign program tier name v
  return .unit

/-- Makes a name of the scope stand for the cell of another variable. -/
def shareCell (name source : String) : Run Outcome := do
  let cell ← ctx.resolve source
  if ((← Run.memory).cellIn? ctx.scope name).isNone then
    ctx.assign program .temp name .unit
  Run.bind ctx.scope name cell
  return .unit

/-- Sets a variable of the scope. -/
def setHere : Run Outcome := do
  let name ← ctx.name 0
  match (ctx.param 1).variableName? with
  | some source => ctx.shareCell program name source
  | none =>
    let v ← ctx.value program settle 1
    ctx.assign program .temp name v
    return .unit

/-- Removes a variable of a tier. -/
def unsetVariable (tier : Tier) : Run Outcome := do
  let name ← ctx.name 0
  ctx.unassign tier name
  return .unit

/-- The id of a target, which must be a character. -/
def targetId : Value → Run String
  | .object (.character c) => pure c.id
  | v => ctx.fail (.wrongTarget ctx.command.name v.kind)

/-- The ids of the targets. -/
def targetIds : Run (List String) := do
  let targets ← ctx.collection program settle 0
  targets.items.mapM ctx.targetId

/-- Sets a variable of several characters, one after the other. -/
def setFor (tier : Tier) : Run Outcome := do
  let ids ← ctx.targetIds program settle
  let name ← ctx.name 1
  let v ← ctx.value program settle 2
  ids.forM fun id => ctx.assignFor program tier name v id
  return .unit

/-- Removes a variable of several characters. -/
def unsetFor (tier : Tier) : Run Outcome := do
  let ids ← ctx.targetIds program settle
  let name ← ctx.name 1
  ids.forM fun id => ctx.unassignFor tier name id
  return .unit

end StageScript.Context
