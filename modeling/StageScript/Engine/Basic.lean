import StageScript.Directory.Basic
import StageScript.Script
import StageScript.Store.State

/-!
# Programs, contexts and runs

A `Program` is a compiled script with the registry, the directory and the limits it runs under. A
`Context` is all a command can see while it is executed. A `Run` is a computation on the state that
may stop with a fault; what it did to the state before the fault stays done. A run that exceeds the
passes it was granted stops as `outOfFuel`, which no script can observe.
-/

namespace StageScript

/-- The limits of a run. -/
structure Options where
  /-- Tail calls and jumps followed for one line. -/
  maxTailCalls : Nat := 10000
  /-- Frames within frames. -/
  maxFrameDepth : Nat := 256
deriving DecidableEq, Repr, Inhabited

/-- **A script with what it runs under.** -/
structure Program where
  script : Script
  registry : Registry
  directory : Directory := {}
  options : Options := {}

/-- What a command sees while it is executed. -/
structure Context where
  command : Command
  actor : Character
  /-- The line of the command that the frame executes. -/
  line : Nat
  scope : ScopeId
  loopIndex : Option Number
  depth : Nat

/-- Why a run stopped early. -/
inductive Stop where
  | fault (f : Fault)
  | outOfFuel

/-- A computation on the state. -/
abbrev Run := EStateM Stop State

/-- How a command is run to its final result. -/
abbrev Settle := Context → Command → Run Settled

/-- A jump to a line, to be run in a scope. -/
structure Jump where
  kind : JumpKind
  line : Nat
  scope : ScopeId

/-- What a command hands back. -/
inductive Outcome where
  | value (v : Value)
  /-- The command to be run in its place. -/
  | tailCall (c : Command)
  | jump (j : Jump)
  | signal (s : Signal)

namespace Outcome

/-- Nothing to hand back. -/
def unit : Outcome := .value .unit

/-- A final result as an outcome. -/
def ofSettled : Settled → Outcome
  | .value v => .value v
  | .signal s => .signal s

end Outcome

namespace Run

/-- Stops with a fault. -/
def fail {α : Type} (f : Fault) : Run α := throw (.fault f)

/-- Goes on with a result, or stops with a cause on a line. -/
def ofExcept {α : Type} (line : Nat) : Except Cause α → Run α
  | .ok a => pure a
  | .error cause => fail (.on line cause)

/-- Attaches a line to a fault that passes. -/
def atLine {α : Type} (line : Nat) (run : Run α) : Run α := fun s =>
  match run s with
  | .error (.fault f) s => .error (.fault (f.atLine line)) s
  | result => result

/-- Reads the memory. -/
def memory : Run Memory := do return (← get).memory

/-- What a cell holds. -/
def read (cell : CellId) : Run Value := do return (← memory).read cell

/-- Writes into a cell. -/
def write (cell : CellId) (v : Value) : Run Unit :=
  modify fun s => { s with memory := s.memory.write cell v }

/-- Makes a name of a scope stand for a cell. -/
def bind (scope : ScopeId) (name : String) (cell : CellId) : Run Unit :=
  modify fun s => { s with memory := s.memory.bind scope name cell }

/-- Sets a name of a scope. -/
def setIn (scope : ScopeId) (name : String) (v : Value) : Run Unit :=
  modify fun s => { s with memory := s.memory.set scope name v }

/-- Makes an empty scope. -/
def newScope : Run ScopeId :=
  modifyGet fun s =>
    let (scope, memory) := s.memory.newScope
    (scope, { s with memory })

/-- Sets a name in a tier for a character. -/
def assign (registry : Registry) (tier : Tier) (scope : ScopeId) (id name : String) (v : Value) :
    Run Unit := do
  match (← get).assign registry tier scope id name v with
  | .ok s => set s
  | .error f => fail f

/-- Removes a name from a tier for a character. -/
def unassign (tier : Tier) (scope : ScopeId) (id name : String) : Run Unit :=
  modify fun s => s.unassign tier scope id name

/-- Appends to the log. -/
def note (entry : LogEntry) : Run Unit := modify (·.note entry)

/-- The log so far. -/
def log : Run (Array LogEntry) := do return (← get).log

/-- The stores of the world and of the program. -/
def stores : Run (Store × Store) := do
  let s ← get
  return (s.world, s.own)

/-- A fault as a result. What was done before it stays done. -/
def attempt {α : Type} (run : Run α) : Run (Except Fault α) := fun s =>
  match run s with
  | .ok a s => .ok (.ok a) s
  | .error (.fault f) s => .ok (.error f) s
  | .error .outOfFuel s => .error .outOfFuel s

end Run

namespace Context

variable (ctx : Context)

/-- Stops with a cause on the line of the context. -/
def fail {α : Type} (cause : Cause) : Run α := Run.fail (.on ctx.line cause)

/-- The context of another command in the same place. -/
def child (command : Command) : Context := { ctx with command }

/-- The context with `LOOP-INDEX` bound. -/
def withLoopIndex (index : Number) : Context := { ctx with loopIndex := some index }

/-- The param in a slot. -/
def param (index : Nat) : Param := ctx.command.param index

/-- The cell a name stands for. -/
def lookUp? (name : String) : Run (Option CellId) := do
  return (← get).lookUp? ctx.scope ctx.actor.id name

/-- The cell a name stands for, which must have one. -/
def resolve (name : String) : Run CellId := do
  match ← ctx.lookUp? name with
  | some cell => return cell
  | none => ctx.fail (.unresolved name)

/-- Sets a name in a tier for a character. -/
def assignFor (program : Program) (tier : Tier) (name : String) (v : Value) (id : String) :
    Run Unit :=
  (Run.assign program.registry tier ctx.scope id name v).atLine ctx.line

/-- Sets a name in a tier for the actor. -/
def assign (program : Program) (tier : Tier) (name : String) (v : Value) : Run Unit :=
  ctx.assignFor program tier name v ctx.actor.id

/-- Removes a name from a tier for a character. -/
def unassignFor (tier : Tier) (name id : String) : Run Unit :=
  Run.unassign tier ctx.scope id name

/-- Removes a name from a tier for the actor. -/
def unassign (tier : Tier) (name : String) : Run Unit := ctx.unassignFor tier name ctx.actor.id

end Context

end StageScript
