import Mathlib.Logic.Function.Iterate
import StageScript.Engine.Run

/-!
# A machine with a call stack

The engine runs the frame of a jump inside of the line that jumps. The machine does the same without
recursion: it keeps a stack of entries and does one line of the top entry in each step.

* `GO-TO` puts an entry on the stack that shares the scope of the entry below it, `DO` one with a
  scope of its own that holds its bindings.
* `GO-BACK` takes one entry off, and the entry below goes on with its next line; in the main entry
  it is a fault.
* `RETURN` takes off all entries down to the nearest one of a `DO`, and the line that made the `DO`
  has the value that was returned. Without such an entry the run ends with the value.
* Running off the last line is like returning unit; without an entry of a `DO` the run ends with the
  last value of a line of the entry that ran off.
* `END` and `END-AND-RETURN` end the run.
* The `SET` and `UN-SET` commands set and remove variables, and the entry goes on with unit.
* `IF` and `IF-NOT` do what the command they choose does.

With the engine the machine has in common how expressions, names and labels are read, and the
memory. It has no outcomes, signals or exits: a command says at once what becomes of the stack
(`Stack.obey`). A fault collects the lines of the entries below the one where it was raised.
-/

namespace StageScript

/-! ### What commands say -/

/-- What a `SET` or `UN-SET` command says. -/
inductive Assignment where
  | set (tier : Tier)
  | setHere
  | unset (tier : Tier)
  | setFor (tier : Tier)
  | unsetFor (tier : Tier)

/-- **What a command of the machine says.** -/
inductive Instruction where
  | endAll
  | endAndReturn
  | goBack
  | returnValue
  | goTo
  | call
  | branch (negated : Bool)
  | assign (what : Assignment)

/-- The instruction of a name. -/
def Instruction.ofName? : String → Option Instruction
  | "END" => some .endAll
  | "END-AND-RETURN" => some .endAndReturn
  | "GO-BACK" => some .goBack
  | "RETURN" => some .returnValue
  | "GO-TO" | "GOTO" => some .goTo
  | "DO" => some .call
  | "IF" => some (.branch false)
  | "IF-NOT" => some (.branch true)
  | "SET" => some (.assign (.set .characterGlobal))
  | "SET-LOCALLY" => some (.assign (.set .characterLocal))
  | "SET-FOR-PROGRAM" => some (.assign (.set .program))
  | "SET-FOR-WORLD" => some (.assign (.set .world))
  | "SET-HERE" => some (.assign .setHere)
  | "UN-SET" => some (.assign (.unset .characterGlobal))
  | "UN-SET-LOCALLY" => some (.assign (.unset .characterLocal))
  | "UN-SET-FOR-PROGRAM" => some (.assign (.unset .program))
  | "UN-SET-FOR-WORLD" => some (.assign (.unset .world))
  | "SET-FOR" => some (.assign (.setFor .characterGlobal))
  | "SET-LOCALLY-FOR" => some (.assign (.setFor .characterLocal))
  | "UN-SET-FOR" => some (.assign (.unsetFor .characterGlobal))
  | "UN-SET-LOCALLY-FOR" => some (.assign (.unsetFor .characterLocal))
  | _ => none

/-! ### The stack -/

/-- What the machine knows of lines that are run one after the other. -/
structure Entry where
  /-- The current line. -/
  line : Nat
  scope : ScopeId
  /-- The last value of a line that was not unit. -/
  last : Option Value

/-- The entry after its line has got a value. -/
def Entry.next (e : Entry) (v : Value) : Entry where
  line := e.line + 1
  scope := e.scope
  last := if v.isUnit then e.last else some v

/-- **The stack**: the main entry at the bottom, and above it the entries that jumps have made. -/
inductive Stack where
  | main (entry : Entry)
  | jumped (kind : JumpKind) (entry : Entry) (below : Stack)

/-- Where the machine goes on after a line. -/
inductive Turn where
  | run (stack : Stack)
  | stop (result : Option Value)

/-- A run has no result if a unit was returned. -/
def Turn.resultOf (v : Value) : Option Value := if v.isUnit then none else some v

namespace Stack

/-- The entry that is run. -/
def top : Stack → Entry
  | main e => e
  | jumped _ e _ => e

/-- The number of entries above the main one. -/
def depth : Stack → Nat
  | main _ => 0
  | jumped _ _ below => below.depth + 1

/-- Goes on with the next line of the top entry. -/
def goOn (v : Value) : Stack → Stack
  | main e => main (e.next v)
  | jumped kind e below => jumped kind (e.next v) below

/-- Takes off the entries down to the nearest one of a call, and the line that made it has the
value. Without such an entry the run stops with a result. -/
def leaveCall (v : Value) (result : Option Value) : Stack → Turn
  | main _ => .stop result
  | jumped .goTo _ below => below.leaveCall v result
  | jumped .call _ below => .run (below.goOn v)

/-- Takes one entry off. -/
def goBack : Stack → Run Turn
  | main e => Run.fail (.on e.line .noReturnTarget)
  | jumped _ _ below => pure (.run (below.goOn .unit))

/-- A fault of the top entry, with the lines of all entries attached. -/
def attach : Stack → Fault → Fault
  | main e, f => f.atLine e.line
  | jumped _ e below, f => below.attach (f.atLine e.line)

/-- The context in which the command of a line is executed. -/
def context (actor : Character) (stack : Stack) (c : Command) : Context where
  command := c
  actor := actor
  line := c.line
  scope := stack.top.scope
  loopIndex := none
  depth := stack.depth

end Stack

/-! ### Commands -/

/-- There are no commands within expressions. -/
def noCommand : Settle := fun _ _ => throw .outOfFuel

section Step

variable (program : Program)

/-- **What an assignment does.** -/
def Assignment.run (ctx : Context) : Assignment → Run Unit
  | set tier => do
    let name ← ctx.name 0
    let v ← ctx.value program noCommand 1
    ctx.assign program tier name v
  | setHere => do
    let name ← ctx.name 0
    match ctx.param 1 with
    | .variable source =>
      let cell ← ctx.resolve source
      -- a name that is new must be one that can be set
      if ((← Run.memory).cellIn? ctx.scope name).isNone then
        ctx.assign program .temp name .unit
      Run.bind ctx.scope name cell
    | _ =>
      let v ← ctx.value program noCommand 1
      ctx.assign program .temp name v
  | unset tier => do
    let name ← ctx.name 0
    ctx.unassign tier name
  | setFor tier => do
    let ids ← ctx.targetIds program noCommand
    let name ← ctx.name 1
    let v ← ctx.value program noCommand 2
    ids.forM fun id => ctx.assignFor program tier name v id
  | unsetFor tier => do
    let ids ← ctx.targetIds program noCommand
    let name ← ctx.name 1
    ids.forM fun id => ctx.unassignFor tier name id

namespace Stack

/-- Fills the scope of a `DO`: the name of a bare variable stands for the cell of the variable,
every other binding is set to its value. -/
def bindAll (ctx : Context) (scope : ScopeId) : List (String × Param) → Run Unit
  | [] => pure ()
  | (name, .variable source) :: rest => do
    let cell ← ctx.resolve source
    Run.bind scope name cell
    bindAll ctx scope rest
  | (name, p) :: rest => do
    let v ← evaluate program noCommand ctx p
    Run.setIn scope name v
    bindAll ctx scope rest

/-- Puts an entry on the stack, if the line may jump once more and the stack may grow. -/
def enter (stack : Stack) (ctx : Context) (left : Nat) (kind : JumpKind) (line : Nat)
    (scope : ScopeId) : Run Turn :=
  if left = 0 then ctx.fail (.tailCallLimit program.options.maxTailCalls)
  else if program.options.maxFrameDepth ≤ stack.depth then
    Run.fail { cause := .callDepth program.options.maxFrameDepth }
  else pure (.run (jumped kind ⟨line, scope, none⟩ stack))

/-- **What the command of a context does to the stack.** The line may jump or branch as often as is
left, and `choose` is for the command that a branch chooses. -/
def obey (stack : Stack) (ctx : Context) (left : Nat) (choose : Command → Run Turn) : Run Turn :=
  match Instruction.ofName? ctx.command.name with
  | none => ctx.fail (.unregistered ctx.command.name)
  | some .endAll => pure (.stop none)
  | some .endAndReturn => do
    let v ← ctx.value program noCommand 0
    return .stop (Turn.resultOf v)
  | some .goBack => stack.goBack
  | some .returnValue => do
    let v ← ctx.value program noCommand 0
    return stack.leaveCall v (Turn.resultOf v)
  | some .goTo => do
    let line ← ctx.labelTarget program 0
    stack.enter program ctx left .goTo line stack.top.scope
  | some .call => do
    let line ← ctx.labelTarget program 0
    let scope ← Run.newScope
    match ctx.param 1 with
    | .bindings list => bindAll program ctx scope list
    | _ => pure ()
    stack.enter program ctx left .call line scope
  | some (.branch negated) => do
    let condition ← ctx.boolean program noCommand 0
    match (ctx.param (if condition = negated then 2 else 1)).command? with
    | some c => choose c
    | none => return .run (stack.goOn .unit)
  | some (.assign what) => do
    what.run program ctx
    return .run (stack.goOn .unit)

/-- **What a line does to the stack**, by a command it has or chooses. -/
def exec (stack : Stack) (ctx : Context) : (left : Nat) → Command → Run Turn
  | 0, c =>
    stack.obey program (ctx.child c) 0 fun _ =>
      ctx.fail (.tailCallLimit program.options.maxTailCalls)
  | left + 1, c => stack.obey program (ctx.child c) (left + 1) (exec stack ctx left)

/-- **A line of the top entry.** -/
def turn (actor : Character) (stack : Stack) : Run Turn :=
  if program.script.lineCount ≤ stack.top.line then
    pure (stack.leaveCall .unit stack.top.last)
  else
    match program.script.commandAt? stack.top.line with
    | none => pure (.run (stack.goOn .unit))
    | some c => stack.exec program (stack.context actor c) program.options.maxTailCalls c

end Stack

/-! ### Steps -/

/-- **The machine**: running on a state, or halted with the result of the run. -/
inductive Machine where
  | running (stack : Stack) (s : State)
  | halted (result : EStateM.Result Stop State (Option Value))

namespace Machine

/-- Goes on where a line has led. -/
def ofTurn (s : State) : Turn → Machine
  | .run stack => running stack s
  | .stop result => halted (.ok result s)

/-- Goes on after a line of the top entry of a stack. -/
def afterTurn (stack : Stack) : EStateM.Result Stop State Turn → Machine
  | .ok turn s => ofTurn s turn
  | .error (.fault f) s => halted (.error (.fault (stack.attach f)) s)
  | .error .outOfFuel s => halted (.error .outOfFuel s)

/-- **One step**: a line of the top entry. -/
def step (actor : Character) : Machine → Machine
  | halted result => halted result
  | running stack s => afterTurn stack (stack.turn program actor s)

/-- The scope of the main entry, with the names that the host binds. -/
def firstScope (request : Request) : Run ScopeId := do
  let scope ← Run.newScope
  program.bindHostNames scope request.actor request.bindings.entries
  return scope

/-- The machine at the start of a run. -/
def start (request : Request) (s : State) : Machine :=
  match firstScope program request s with
  | .ok scope s => running (.main ⟨program.startLine request.start, scope, none⟩) s
  | .error stop s => halted (.error stop s)

end Machine

end Step

/-! ### Runs of the machine -/

/-- The machine gets from one state to another in some number of steps. -/
def Machine.Reaches (program : Program) (actor : Character) (m m' : Machine) : Prop :=
  ∃ n, (Machine.step program actor)^[n] m = m'

namespace Machine.Reaches

variable {program : Program} {actor : Character} {m m' m'' : Machine}

theorem refl (m : Machine) : Reaches program actor m m := ⟨0, rfl⟩

theorem head (h : Machine.step program actor m = m') (h' : Reaches program actor m' m'') :
    Reaches program actor m m'' := by
  obtain ⟨n, hn⟩ := h'
  exact ⟨n + 1, by rw [Function.iterate_succ_apply, h, hn]⟩

theorem trans (h : Reaches program actor m m') (h' : Reaches program actor m' m'') :
    Reaches program actor m m'' := by
  obtain ⟨n, rfl⟩ := h
  obtain ⟨k, rfl⟩ := h'
  exact ⟨k + n, Function.iterate_add_apply _ k n m⟩

/-- A machine that has halted stays as it is. -/
theorem halted {result : EStateM.Result Stop State (Option Value)}
    (h : Reaches program actor m (.halted result)) :
    ∃ n, ∀ k, n ≤ k → (Machine.step program actor)^[k] m = .halted result := by
  obtain ⟨n, hn⟩ := h
  refine ⟨n, fun k hk => ?_⟩
  obtain ⟨d, rfl⟩ := Nat.exists_eq_add_of_le' hk
  rw [Function.iterate_add_apply, hn]
  exact Function.iterate_fixed rfl d

/-- The result of a machine is unique. -/
theorem halted_unique {result result' : EStateM.Result Stop State (Option Value)}
    (h : Reaches program actor m (.halted result))
    (h' : Reaches program actor m (.halted result')) : result = result' := by
  obtain ⟨n, hn⟩ := h.halted
  obtain ⟨k, hk⟩ := h'.halted
  have heq := (hn (n + k) (Nat.le_add_right n k)).symm.trans (hk (n + k) (Nat.le_add_left k n))
  exact Machine.halted.inj heq

end Machine.Reaches

end StageScript
