import StageScript.Engine.Assign
import StageScript.Engine.Flow
import StageScript.Engine.Host
import StageScript.Engine.Loop

/-!
# Settling a command

A command is executed and its tail calls and jumps are followed until a value or a signal is left.
A jump runs a nested frame: the lines from its target on, until a signal ends it or the lines run
out. Commands within commands, and the frames of jumps, are settled with one unit of fuel less; the
fuel also bounds the passes of a loop that could go on for ever.
-/

namespace StageScript

variable (program : Program)

/-! ### Executing -/

/-- Does what a behaviour says. -/
def perform (settle : Settle) (budget : Nat) (ctx : Context) (type : CommandType) : Run Outcome :=
  match type.behaviour with
  | .endAll => pure (.signal .endAll)
  | .goBack => pure (.signal .goBack)
  | .goTo => ctx.goTo program
  | .call => ctx.call program settle
  | .branch negated => ctx.branch program settle negated
  | .strayElse => ctx.fail .elseWithoutIf
  | .returnValue => ctx.sendValue program settle .returnValue
  | .returnAll => ctx.sendValue program settle .returnAll
  | .repeatWhile negated => ctx.repeatWhile program settle budget negated
  | .repeatFor => ctx.repeatFor program settle budget
  | .counted descending => ctx.counted program settle descending
  | .countdownWith => ctx.countdownWith settle budget
  | .countUpWith => ctx.countUpWith program settle budget
  | .always => ctx.always settle budget
  | .forEach => ctx.fail .forEach
  | .set tier => ctx.setVariable program settle tier
  | .setHere => ctx.setHere program settle
  | .unset tier => ctx.unsetVariable tier
  | .setFor tier => ctx.setFor program settle tier
  | .unsetFor tier => ctx.unsetFor program settle tier
  | .host action => ctx.act program settle type.signature action

/-- Executes a command in the place of a context. -/
def execute (settle : Settle) (budget : Nat) (ctx : Context) (command : Command) : Run Outcome :=
  match program.registry.get? command.name with
  | some type => perform program settle budget (ctx.child command) type
  | none => ctx.fail (.unregistered command.name)

/-! ### Frames -/

/-- How a frame runs: for whom, where, how deep, and whether a jump led to it. -/
structure Frame where
  actor : Character
  scope : ScopeId
  depth : Nat
  jumped : Bool

/-- The context in which a frame executes the command of a line. -/
def Frame.context (frame : Frame) (command : Command) : Context where
  command := command
  actor := frame.actor
  line := command.line
  scope := frame.scope
  loopIndex := none
  depth := frame.depth

/-- What a signal on a line does to the frame. -/
def Frame.receive (frame : Frame) (line : Nat) : Signal → Run Exit
  | .endAll => pure .ended
  | .returnValue v => pure (.returned v)
  | .returnAll v => pure (.returnedAll v)
  | .goBack => if frame.jumped then pure .wentBack else Run.fail (.on line .noReturnTarget)
  | .exit how => pure how

/-- Runs the lines from `line` on, of which `remaining` are left. -/
def Frame.runLines (settle : Settle) (frame : Frame) :
    (remaining line : Nat) → (last : Option Value) → Run Exit
  | 0, _, last => pure (.completed last)
  | remaining + 1, line, last =>
    match program.script.commandAt? line with
    | none => runLines settle frame remaining (line + 1) last
    | some command => do
      match ← (settle (frame.context command) command).atLine line with
      | .value v =>
        runLines settle frame remaining (line + 1) (if v.isUnit then last else some v)
      | .signal s => frame.receive line s

/-- Runs a frame from a line on. -/
def Frame.run (settle : Settle) (frame : Frame) (start : Nat) : Run Exit :=
  if program.options.maxFrameDepth < frame.depth then
    Run.fail { cause := .callDepth program.options.maxFrameDepth }
  else frame.runLines program settle (program.script.lineCount - start) start none

/-! ### Following -/

/-- What the end of a jump's frame is to the line that jumped. -/
def JumpKind.outcome : JumpKind → Exit → Outcome
  | .goTo, .wentBack => .unit
  | .goTo, how => .signal (.exit how)
  | .call, .returned v => .value v
  | .call, .wentBack | .call, .completed _ => .unit
  | .call, .ended => .signal .endAll
  | .call, .returnedAll v => .signal (.returnAll v)

/-- Runs the frame of a jump. -/
def follow (settle : Settle) (ctx : Context) (jump : Jump) : Run Outcome := do
  let frame : Frame := ⟨ctx.actor, jump.scope, ctx.depth + 1, true⟩
  let how ← frame.run program settle jump.line
  return jump.kind.outcome how

/-- Follows tail calls and jumps, at most as many as are left. -/
def ultimate (settle : Settle) (budget : Nat) (ctx : Context) :
    (left : Nat) → Outcome → Run Settled
  | _, .value v => pure (.value v)
  | _, .signal s => pure (.signal s)
  | 0, _ => ctx.fail (.tailCallLimit program.options.maxTailCalls)
  | left + 1, .tailCall command => do
    let outcome ← execute program settle budget ctx command
    ultimate settle budget ctx left outcome
  | left + 1, .jump jump => do
    let outcome ← follow program settle ctx jump
    ultimate settle budget ctx left outcome

/-- **Runs a command to its final result**, with fuel for commands within commands. -/
def settle : (fuel : Nat) → Settle
  | 0 => fun _ _ => throw .outOfFuel
  | fuel + 1 => fun ctx command => do
    let outcome ← execute program (settle fuel) fuel ctx command
    ultimate program (settle fuel) fuel ctx program.options.maxTailCalls outcome

end StageScript
