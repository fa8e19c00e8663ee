import StageScript.Engine.Slot
import StageScript.Syntax.Column

/-!
# Commands of a host

How a context answers a command of a host that asks for a service, and how a program of a host is
carried out with these answers. A host sees the commands of a script as they are written.
-/

namespace StageScript

namespace Context

variable (program : Program) (settle : Settle) (ctx : Context) (signature : Signature)

/-- The context with `LOOP-INDEX` bound, if there is something to bind it to. -/
def rebound (index : Option Number) : Context :=
  { ctx with loopIndex := index <|> ctx.loopIndex }

/-- **What a context answers to a command of a host.** -/
def answer : (service : Service) → Run service.Answer
  | .site => pure {
      command := ctx.command.unplaced
      signature
      actor := ctx.actor
      line := ctx.line
      scope := ctx.scope
      loopIndex := ctx.loopIndex }
  | .directory => pure program.directory
  | .lineOf label => pure (program.script.lineOf? label)
  | .evaluate index path => evaluate program settle ctx ((ctx.param index).part path)
  | .number index => ctx.number program settle index
  | .text index => ctx.text program settle index
  | .boolean index => ctx.boolean program settle index
  | .collection index => ctx.collection program settle index
  | .name index => ctx.name index
  | .labelTarget index => ctx.labelTarget program index
  | .lineParam index => pure (ctx.lineParam index)
  | .cell index => ctx.cellSlot index
  | .run index => ctx.runCommand settle index
  | .lookUp name => ctx.lookUp? name
  | .assign tier name v id => ctx.assignFor program tier name v id
  | .unassign tier name id => ctx.unassignFor tier name id
  | .stores => Run.stores
  | .read cell => Run.read cell
  | .write cell v => Run.write cell v
  | .newScope => Run.newScope
  | .contents scope => do return (← Run.memory).contents scope
  | .cellIn scope name => do return (← Run.memory).cellIn? scope name
  | .bind scope name cell => Run.bind scope name cell
  | .setIn scope name v => Run.setIn scope name v
  | .note entry => Run.note entry
  | .logged => do return (← Run.log).toList.filterMap LogEntry.text?

/-- **Carries out a program of a host.** -/
def carryOut {α : Type} : HostProgram α → Run α
  | .done a => pure a
  | .fail fault => Run.fail fault
  | .ask index service next => do
    let answer ← ((ctx.rebound index).answer program settle signature service).attempt
    carryOut (next answer)

/-- What a command of a host hands back. A tail call of a slot without a command gives unit. -/
def outcome : HostReply → Outcome
  | .value v => .value v
  | .signal s => .signal s
  | .tailCall index =>
    match (ctx.param index).command? with
    | some c => .tailCall c
    | none => .unit
  | .jump kind line scope => .jump ⟨kind, line, scope⟩

/-- Executes a command of a host. -/
def act (action : HostAction) : Run Outcome := do
  let reply ← ctx.carryOut program settle signature action
  return ctx.outcome reply

end Context

end StageScript
