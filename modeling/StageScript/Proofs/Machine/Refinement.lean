import StageScript.Proofs.Machine.Flat

/-!
# The engine refines the machine

The engine runs a flat program as the machine with a call stack does. A frame of the engine is run
on behalf of the top entry of a stack, and how it ends says what becomes of the stack
(`Stack.finish`): the exit of a frame is handed down from frame to frame where the machine takes
several entries off at once, and a fault gets its lines one by one where the machine attaches all of
them. A command is dealt with by its instruction (`exec_tracks`): what the engine makes of its
outcome, tail call by tail call, is what the machine says of the stack. The central statement is
`runAlike`: from the top entry on some line, the machine reaches what the frame makes of the lines
that are left. It is shown by induction on the fuel, for the frames of jumps, and within that on the
number of lines left.
-/

namespace StageScript

/-! ### Frames and entries -/

/-- What the end of a jump's frame is to the line that jumped. -/
def JumpKind.settled : JumpKind → Exit → Settled
  | .goTo, .wentBack => .value .unit
  | .goTo, how => .signal (.exit how)
  | .call, .returned v => .value v
  | .call, .wentBack | .call, .completed _ => .value .unit
  | .call, .ended => .signal .endAll
  | .call, .returnedAll v => .signal (.returnAll v)

theorem JumpKind.outcome_eq (kind : JumpKind) (how : Exit) :
    kind.outcome how = .ofSettled (kind.settled how) := by
  cases kind <;> cases how <;> rfl

namespace Stack

/-- The frame in which the engine runs the top entry. -/
def frame (actor : Character) (stack : Stack) : Frame where
  actor := actor
  scope := stack.top.scope
  depth := stack.depth
  jumped := match stack with
    | main _ => false
    | jumped _ _ _ => true

/-- Where the machine goes on when the frame of the top entry is left. -/
def leave (stack : Stack) : Exit → Turn
  | .ended => .stop none
  | .returnedAll v => .stop (Turn.resultOf v)
  | .returned v => stack.leaveCall v (Turn.resultOf v)
  | .completed last => stack.leaveCall .unit last
  | .wentBack =>
    match stack with
    | main _ => .stop none
    | jumped _ _ below => .run (below.goOn .unit)

/-- A reason to stop, with the lines of the entries below the top one attached. -/
def stopBelow (stack : Stack) : Stop → Stop
  | .outOfFuel => .outOfFuel
  | .fault f =>
    match stack with
    | main _ => .fault f
    | jumped _ _ below => .fault (below.attach f)

/-- **What becomes of a stack** when the frame of its top entry ends. -/
def finish (stack : Stack) : EStateM.Result Stop State Exit → Machine
  | .ok how s => .ofTurn s (stack.leave how)
  | .error stop s => .halted (.error (stack.stopBelow stop) s)

/-- What becomes of a stack after a line that the engine has settled. -/
def afterLine (actor : Character) (stack : Stack) : EStateM.Result Stop State Settled → Machine
  | .ok (.value v) s => .running (stack.goOn v) s
  | .ok (.signal signal) s =>
    stack.finish ((stack.frame actor).receive stack.top.line signal s)
  | .error stop s => .halted (.error (stack.stopBelow (stop.atLine stack.top.line)) s)

/-! ### Going on with the next line -/

@[simp] theorem top_goOn (stack : Stack) (v : Value) : (stack.goOn v).top = stack.top.next v := by
  cases stack <;> rfl

@[simp] theorem depth_goOn (stack : Stack) (v : Value) : (stack.goOn v).depth = stack.depth := by
  cases stack <;> rfl

theorem frame_goOn (stack : Stack) (v : Value) (actor : Character) :
    (stack.goOn v).frame actor = stack.frame actor := by
  cases stack <;> rfl

theorem leaveCall_goOn (stack : Stack) (v w : Value) (result : Option Value) :
    (stack.goOn v).leaveCall w result = stack.leaveCall w result := by
  cases stack with
  | main e => rfl
  | jumped kind e below => cases kind <;> rfl

theorem leave_goOn (stack : Stack) (v : Value) (how : Exit) :
    (stack.goOn v).leave how = stack.leave how := by
  cases how with
  | ended | returnedAll w => rfl
  | wentBack => cases stack <;> rfl
  | returned w | completed last => exact leaveCall_goOn _ _ _ _

theorem finish_goOn (stack : Stack) (v : Value) (r : EStateM.Result Stop State Exit) :
    (stack.goOn v).finish r = stack.finish r := by
  cases r with
  | ok how s => simp only [finish, leave_goOn]
  | error stop s => cases stack <;> cases stop <;> rfl

/-! ### Faults -/

theorem attach_eq (stack : Stack) (f : Fault) :
    .fault (stack.attach f) = stack.stopBelow (.fault (f.atLine stack.top.line)) := by
  cases stack <;> rfl

theorem afterTurn_error (actor : Character) (stack : Stack) (stop : Stop) (s : State) :
    Machine.afterTurn stack (.error stop s) = stack.afterLine actor (.error stop s) := by
  cases stop with
  | outOfFuel => rfl
  | fault f =>
    simp only [Machine.afterTurn, afterLine, attach_eq]
    rfl

theorem atLine_on (line : Nat) (cause : Cause) :
    (Fault.on line cause).atLine line = .on line cause := by
  simp [Fault.on, Fault.atLine]

/-! ### Leaving frames -/

/-- **The end of a jump**: leaving the entry of a jump is going on after the line that jumped. -/
theorem finish_jumped (actor : Character) (kind : JumpKind) (e : Entry) (stack : Stack)
    (m : Run Exit) (s : State) :
    (jumped kind e stack).finish (m s) =
      stack.afterLine actor
        ((do let how ← m; return kind.settled how : Run Settled) s) := by
  cases hm : m s with
  | ok how t =>
    rw [Run.bind_of_ok hm]
    cases kind <;> cases how <;> rfl
  | error stop t =>
    rw [Run.bind_of_error hm]
    cases stop with
    | outOfFuel => rfl
    | fault f =>
      rw [← afterTurn_error]
      rfl

/-- When the main entry is left, the run is over. -/
theorem finish_main (e : Entry) (m : Run Exit) (s : State) :
    (main e).finish (m s) =
      .halted ((do let how ← m; return Program.result how : Run (Option Value)) s) := by
  cases hm : m s with
  | ok how t =>
    rw [Run.bind_of_ok hm]
    cases how <;> rfl
  | error stop t =>
    rw [Run.bind_of_error hm]
    cases stop <;> rfl

end Stack

/-! ### The simulation -/

/-- The machine reaches what the engine makes of the lines that are left to the top entry. -/
def RunAlike (program : Program) (actor : Character) (settle : Settle) (stack : Stack) : Prop :=
  ∀ s, Machine.Reaches program actor (.running stack s)
    (stack.finish ((stack.frame actor).runLines program settle
      (program.script.lineCount - stack.top.line) stack.top.line stack.top.last s))

/-- From what a command has made of the stack, the machine reaches what the engine makes of it when
it has settled the command. -/
def Tracks (program : Program) (actor : Character) (stack : Stack) (m : Run Turn)
    (r : Run Settled) : Prop :=
  ∀ s, Machine.Reaches program actor (.afterTurn stack (m s)) (stack.afterLine actor (r s))

section Simulation

variable {program : Program} {actor : Character} {stack : Stack} {c : Command} {s : State}

open Machine (Reaches)

namespace Tracks

theorem bind {α : Type} {x : Run α} {f : α → Run Turn} {g : α → Run Settled}
    (h : ∀ a, Tracks program actor stack (f a) (g a)) :
    Tracks program actor stack (x >>= f) (x >>= g) := by
  intro s
  cases hx : x s with
  | ok a t =>
    rw [Run.bind_of_ok hx, Run.bind_of_ok hx]
    exact h a t
  | error stop t =>
    rw [Run.bind_of_error hx, Run.bind_of_error hx, Stack.afterTurn_error actor]
    exact .refl _

theorem fail (f : Fault) : Tracks program actor stack (Run.fail f) (Run.fail f) := by
  intro s
  show Reaches program actor (.afterTurn stack (.error (.fault f) s)) _
  rw [Stack.afterTurn_error actor]
  exact .refl _

/-- A line that has a value is followed by the next line. -/
theorem value (v : Value) :
    Tracks program actor stack (pure (.run (stack.goOn v))) (pure (.value v)) :=
  fun _ => .refl _

/-- A signal with which the frame ends leaves the top entry. -/
theorem signal (signal : Signal) (how : Exit)
    (h : (stack.frame actor).receive stack.top.line signal = pure how) :
    Tracks program actor stack (pure (stack.leave how)) (pure (.signal signal)) := by
  intro s
  show Reaches program actor _ (stack.finish ((stack.frame actor).receive _ signal s))
  rw [h]
  exact .refl _

theorem goBack : Tracks program actor stack stack.goBack (pure (.signal .goBack)) := by
  intro s
  cases stack with
  | jumped kind e below => exact .refl _
  | main e =>
    show Reaches program actor
      (.halted (.error (.fault ((Fault.on e.line .noReturnTarget).atLine e.line)) s)) _
    rw [Stack.atLine_on]
    exact .refl _

end Tracks

theorem ultimate_ofSettled {settle : Settle} {budget : Nat} {ctx : Context} (left : Nat)
    (r : Settled) : ultimate program settle budget ctx left (.ofSettled r) = pure r := by
  cases r with
  | value v => exact ultimate_value left v
  | signal signal => exact ultimate_signal left signal

/-- **The frame of a jump**, given that all deeper entries run alike. -/
theorem enter_tracks {fuel left line : Nat} {kind : JumpKind} {scope : ScopeId} (c : Command)
    (hdeeper : stack.depth < program.options.maxFrameDepth →
      RunAlike program actor (settle program fuel) (.jumped kind ⟨line, scope, none⟩ stack)) :
    Tracks program actor stack (stack.enter program (stack.context actor c) left kind line scope)
      (ultimate program (settle program fuel) fuel (stack.context actor c) left
        (.jump ⟨kind, line, scope⟩)) := by
  unfold Stack.enter
  cases left with
  | zero =>
    simp only [ultimate, if_true]
    exact .fail _
  | succ left =>
    simp only [ultimate, follow, bind_assoc, pure_bind, JumpKind.outcome_eq, ultimate_ofSettled]
    unfold Frame.run
    rw [if_neg (Nat.succ_ne_zero left)]
    by_cases hdepth : program.options.maxFrameDepth ≤ stack.depth
    · have hdeep : program.options.maxFrameDepth < (stack.context actor c).depth + 1 :=
        Nat.lt_succ_of_le hdepth
      rw [if_pos hdepth, if_pos hdeep]
      exact .fail _
    · have hdeep : ¬ program.options.maxFrameDepth < (stack.context actor c).depth + 1 :=
        Nat.not_lt.mpr (Nat.lt_of_not_le hdepth)
      rw [if_neg hdepth, if_neg hdeep]
      intro s
      have hreach := hdeeper (Nat.lt_of_not_le hdepth) s
      rw [Stack.finish_jumped actor] at hreach
      exact hreach

/-! ### Commands -/

theorem bindAll_eq (ctx : Context) (scope : ScopeId) (list : List (String × Param)) :
    Stack.bindAll program ctx scope list = ctx.bindArguments program noCommand scope list := by
  induction list with
  | nil => rfl
  | cons binding rest ih =>
    obtain ⟨name, p⟩ := binding
    rw [Context.bindArguments, ← ih]
    unfold Context.bindArgument
    cases p with
    | «variable» source => simp only [Stack.bindAll, Param.variableName?, bind_assoc]
    | _ => simp only [Stack.bindAll, Param.variableName?, bind_assoc]

/-- An assignment gives unit. -/
theorem perform_assignment (ctx : Context) (signature : Signature) (what : Assignment) :
    perform program noCommand 0 ctx ⟨signature, what.behaviour⟩ =
      (do what.run program ctx; return .unit) := by
  cases what with
  | setHere =>
    show ctx.setHere program noCommand = _
    unfold Context.setHere Context.shareCell Assignment.run
    simp only [bind_assoc]
    refine bind_congr fun name => ?_
    cases ctx.param 1 with
    | «variable» source =>
      simp only [Param.variableName?, bind_assoc]
      refine bind_congr fun cell => bind_congr fun memory => ?_
      split <;> simp only [bind_assoc]
    | _ => simp only [Param.variableName?, bind_assoc]
  | set tier =>
    show ctx.setVariable program noCommand tier = _
    unfold Context.setVariable Assignment.run
    simp only [bind_assoc]
  | unset tier =>
    show ctx.unsetVariable tier = _
    unfold Context.unsetVariable Assignment.run
    simp only [bind_assoc]
  | setFor tier =>
    show ctx.setFor program noCommand tier = _
    unfold Context.setFor Assignment.run
    simp only [bind_assoc]
  | unsetFor tier =>
    show ctx.unsetFor program noCommand tier = _
    unfold Context.unsetFor Assignment.run
    simp only [bind_assoc]

/-- **An instruction**: what the machine says it does to the stack is what the engine makes of it,
given that this is so of the command that a branch chooses. -/
theorem obey_tracks {fuel left : Nat} {d : Command} {i : Instruction} (c : Command)
    {choose : Command → Run Turn} (hi : d.Says program.registry i)
    (hdeeper : ∀ kind line scope, stack.depth < program.options.maxFrameDepth →
      RunAlike program actor (settle program fuel) (.jumped kind ⟨line, scope, none⟩ stack))
    (hchoose : ∀ e ∈ d.inner, i.isBranch = true → Tracks program actor stack (choose e)
      (ultimate program (settle program fuel) fuel (stack.context actor c) left (.tailCall e))) :
    Tracks program actor stack
      (stack.obey program ((stack.context actor c).child d) left choose)
      (execute program noCommand 0 (stack.context actor c) d >>=
        ultimate program (settle program fuel) fuel (stack.context actor c) left) := by
  obtain ⟨signature, hexecute⟩ := execute_of_instruction noCommand 0 hi
  rw [hexecute]
  unfold Stack.obey
  rw [show ((stack.context actor c).child d).command.name = d.name from rfl, hi.1]
  cases i with
  | endAll =>
    simp only [Instruction.behaviour, perform, pure_bind, ultimate_signal]
    exact .signal .endAll .ended rfl
  | endAndReturn =>
    simp only [Instruction.behaviour, perform, Context.sendValue, bind_assoc, pure_bind,
      ultimate_signal]
    exact .bind fun v => .signal (.returnAll v) (.returnedAll v) rfl
  | goBack =>
    simp only [Instruction.behaviour, perform, pure_bind, ultimate_signal]
    exact .goBack
  | returnValue =>
    simp only [Instruction.behaviour, perform, Context.sendValue, bind_assoc, pure_bind,
      ultimate_signal]
    exact .bind fun v => .signal (.returnValue v) (.returned v) rfl
  | goTo =>
    simp only [Instruction.behaviour, perform, Context.goTo, bind_assoc, pure_bind]
    exact .bind fun line => enter_tracks c (hdeeper _ _ _)
  | call =>
    simp only [Instruction.behaviour, perform, Context.call, bind_assoc]
    refine .bind fun line => .bind fun scope => ?_
    cases ((stack.context actor c).child d).param 1 with
    | bindings list =>
      simp only [bindAll_eq, bind_assoc, pure_bind]
      exact .bind fun _ => enter_tracks c (hdeeper _ _ _)
    | _ =>
      simp only [pure_bind]
      exact enter_tracks c (hdeeper _ _ _)
  | branch negated =>
    simp only [Instruction.behaviour, perform, Context.branch, bind_assoc]
    refine .bind fun condition => ?_
    have hindex : (if condition = negated then 2 else 1) =
        if condition != negated then 1 else 2 := by
      cases condition <;> cases negated <;> rfl
    rw [hindex]
    cases he : (((stack.context actor c).child d).param
        (if condition != negated then 1 else 2)).command? with
    | some e =>
      simp only [pure_bind]
      exact hchoose e (Command.mem_inner_of_command? he) rfl
    | none =>
      simp only [pure_bind, Outcome.unit, ultimate_value]
      exact .value .unit
  | assign what =>
    rw [Instruction.behaviour, perform_assignment]
    simp only [bind_assoc, pure_bind, Outcome.unit, ultimate_value]
    exact .bind fun _ => .value .unit

/-- **A command**: what the machine says of the line is what the engine makes of it. The induction
is on the jumps and branches that are left to the line. -/
theorem exec_tracks {fuel left : Nat} {d : Command} (c : Command) (hflat : d.Flat program.registry)
    (hdeeper : ∀ kind line scope, stack.depth < program.options.maxFrameDepth →
      RunAlike program actor (settle program fuel) (.jumped kind ⟨line, scope, none⟩ stack)) :
    Tracks program actor stack (stack.exec program (stack.context actor c) left d)
      (execute program (settle program fuel) fuel (stack.context actor c) d >>=
        ultimate program (settle program fuel) fuel (stack.context actor c) left) := by
  rw [execute_flat (settle program fuel) noCommand fuel 0 hflat]
  obtain ⟨i, hi⟩ := hflat.instruction
  induction left generalizing d i with
  | zero =>
    refine obey_tracks c hi hdeeper fun e he hbranch => ?_
    simp only [ultimate]
    exact .fail _
  | succ left ih =>
    refine obey_tracks c hi hdeeper fun e he hbranch => ?_
    have he := hflat.branches hi hbranch e he
    obtain ⟨i', hi'⟩ := he.instruction
    rw [ultimate, execute_flat (settle program fuel) noCommand fuel 0 he]
    exact ih he i' hi'

/-! ### The lines that are left -/

/-- What a frame does after a line, with `remaining` lines left. -/
def Frame.goOn (program : Program) (settle : Settle) (frame : Frame) (remaining line : Nat)
    (last : Option Value) : Settled → Run Exit
  | .value v =>
    frame.runLines program settle remaining (line + 1) (if v.isUnit then last else some v)
  | .signal s => frame.receive line s

theorem settle_succ (program : Program) (fuel : Nat) (ctx : Context) (c : Command) :
    settle program (fuel + 1) ctx c =
      execute program (settle program fuel) fuel ctx c >>=
        ultimate program (settle program fuel) fuel ctx program.options.maxTailCalls := rfl

theorem runLines_of_none {settle : Settle} {frame : Frame} {remaining line : Nat}
    (last : Option Value) (hc : program.script.commandAt? line = none) :
    frame.runLines program settle (remaining + 1) line last =
      frame.runLines program settle remaining (line + 1) last := by
  simp only [Frame.runLines, hc]

theorem runLines_of_some {settle : Settle} {frame : Frame} {remaining line : Nat}
    (last : Option Value) (hc : program.script.commandAt? line = some c) :
    frame.runLines program settle (remaining + 1) line last =
      (settle (frame.context c) c).atLine line >>=
        frame.goOn program settle remaining line last := by
  simp only [Frame.runLines, hc]
  rfl

theorem step_of_end (h : program.script.lineCount ≤ stack.top.line) :
    Machine.step program actor (.running stack s) =
      .ofTurn s (stack.leave (.completed stack.top.last)) := by
  simp only [Machine.step, Stack.turn, if_pos h]
  rfl

theorem step_of_none (h : stack.top.line < program.script.lineCount)
    (hc : program.script.commandAt? stack.top.line = none) :
    Machine.step program actor (.running stack s) = .running (stack.goOn .unit) s := by
  simp only [Machine.step, Stack.turn, if_neg (Nat.not_le.mpr h), hc]
  rfl

theorem step_of_some (h : stack.top.line < program.script.lineCount)
    (hc : program.script.commandAt? stack.top.line = some c) :
    Machine.step program actor (.running stack s) = .afterTurn stack
      (stack.exec program (stack.context actor c) program.options.maxTailCalls c s) := by
  simp only [Machine.step, Stack.turn, if_neg (Nat.not_le.mpr h), hc]

/-- **The machine runs the lines of a frame as the engine does**, with enough fuel for the frames
that are still allowed. -/
theorem runAlike (hflat : program.Flat) {fuel : Nat}
    (hdepth : stack.depth ≤ program.options.maxFrameDepth)
    (hfuel : program.options.maxFrameDepth < stack.depth + fuel) :
    RunAlike program actor (settle program fuel) stack := by
  induction fuel generalizing stack with
  | zero => omega
  | succ fuel ih =>
    unfold RunAlike
    generalize hleft : program.script.lineCount - stack.top.line = remaining
    induction remaining generalizing stack with
    | zero =>
      intro s
      exact .head (step_of_end (Nat.le_of_sub_eq_zero hleft)) (.refl _)
    | succ remaining ihline =>
      intro s
      -- the lines after this one, whatever value it gets
      have hrest : ∀ (v : Value) (t : State), Reaches program actor (.running (stack.goOn v) t)
          (stack.finish ((stack.frame actor).runLines program (settle program (fuel + 1)) remaining
            (stack.top.line + 1) (if v.isUnit then stack.top.last else some v) t)) := by
        intro v t
        have hnextLine : (stack.goOn v).top.line = stack.top.line + 1 := by
          rw [Stack.top_goOn, Entry.next]
        have hnext := @ihline (stack.goOn v) (by rwa [Stack.depth_goOn])
          (by rwa [Stack.depth_goOn]) (by omega) t
        rw [Stack.finish_goOn, Stack.frame_goOn, Stack.top_goOn] at hnext
        exact hnext
      have hline : stack.top.line < program.script.lineCount := by omega
      cases hc : program.script.commandAt? stack.top.line with
      | none =>
        rw [runLines_of_none _ hc]
        exact .head (step_of_none hline hc) (hrest .unit s)
      | some c =>
        have hdeeper : ∀ kind line scope, stack.depth < program.options.maxFrameDepth →
            RunAlike program actor (settle program fuel)
              (.jumped kind ⟨line, scope, none⟩ stack) := by
          intro kind line scope hlt
          have hdepth' : (Stack.jumped kind ⟨line, scope, none⟩ stack).depth =
              stack.depth + 1 := rfl
          exact ih (by omega) (by omega)
        refine .head (step_of_some hline hc) ((exec_tracks c (hflat _ c hc) hdeeper s).trans ?_)
        rw [← settle_succ, show stack.context actor c = (stack.frame actor).context c from rfl,
          runLines_of_some _ hc]
        cases hs : settle program (fuel + 1) ((stack.frame actor).context c) c s with
        | error stop t =>
          rw [Run.bind_of_error (Run.atLine_of_error _ hs)]
          exact .refl _
        | ok settled t =>
          rw [Run.bind_of_ok (Run.atLine_of_ok _ hs)]
          cases settled with
          | value v => exact hrest v t
          | signal signal => exact .refl _

end Simulation

/-! ### Runs -/

theorem runWithin_eq (program : Program) (fuel : Nat) (request : Request) :
    program.runWithin fuel request =
      Machine.firstScope program request >>= fun scope => do
        let frame : Frame := ⟨request.actor, scope, 0, false⟩
        let how ← frame.runLines program (settle program fuel)
          (program.script.lineCount - program.startLine request.start)
          (program.startLine request.start) none
        return Program.result how := by
  unfold Program.runWithin Machine.firstScope Frame.run
  simp only [bind_assoc, pure_bind, Nat.not_lt_zero, if_false]

/-- A run of a flat program takes the machine from its start to its end. -/
theorem start_reaches {program : Program} (hflat : program.Flat) {fuel : Nat}
    (hfuel : program.options.maxFrameDepth < fuel) (request : Request) (s : State) :
    Machine.Reaches program request.actor (Machine.start program request s)
      (.halted (program.runWithin fuel request s)) := by
  rw [runWithin_eq]
  unfold Machine.start
  cases hs : Machine.firstScope program request s with
  | error stop t =>
    rw [Run.bind_of_error hs]
    exact .refl _
  | ok scope t =>
    rw [Run.bind_of_ok hs]
    have hreach : RunAlike program request.actor (settle program fuel)
        (.main ⟨program.startLine request.start, scope, none⟩) :=
      runAlike hflat (Nat.zero_le _) (Nat.lt_of_lt_of_eq hfuel (Nat.zero_add fuel).symm)
    have hend := hreach t
    rw [Stack.finish_main] at hend
    exact hend

/-- **The engine refines the machine with a call stack.** For a flat program, whatever the limits,
the stores, the actor, the start and the bindings are, the machine halts, and every run of the
engine with more fuel than frames are allowed gives the result of the machine: the same value or the
same fault with the same lines, and the same state. -/
theorem runWithin_eq_machine {program : Program} (hflat : program.Flat) (request : Request)
    (s : State) :
    ∃ n result, (∀ s', result ≠ .error .outOfFuel s') ∧
      (∀ k, n ≤ k → (Machine.step program request.actor)^[k] (Machine.start program request s) =
        .halted result) ∧
      ∀ fuel, program.options.maxFrameDepth < fuel →
        program.runWithin fuel request s = result := by
  have hample : program.options.maxFrameDepth < program.options.maxFrameDepth + 1 +
      program.enoughFuel := by omega
  have hend := start_reaches hflat hample request s
  obtain ⟨n, hn⟩ := hend.halted
  refine ⟨n, _, ?_, hn, fun fuel hfuel => ?_⟩
  · exact (runWithin_steady hflat.counted (Nat.le_add_left _ _) (Nat.le_refl _) request).2 s
  · exact (start_reaches hflat hfuel request s).halted_unique hend

/-! ### An example -/

/-- A script that calls a label, jumps, comes back and then returns from the main entry:
```
   DO F
   IF TRUE : GO-TO G
F: RETURN "x"
G: GO-BACK
```
-/
def tourScript : Script where
  labels := ⟨[("F", 2), ("G", 3)]⟩
  lineLabels := ⟨[(2, "F"), (3, "G")]⟩
  commands := ⟨[
    (0, ⟨"DO", [.value (.text "F")], 0⟩),
    (1, ⟨"IF", [.value (.boolean true), .command ⟨"GO-TO", [.value (.text "G")], 1⟩], 1⟩),
    (2, ⟨"RETURN", [.value (.text "x")], 2⟩),
    (3, ⟨"GO-BACK", [], 3⟩)]⟩
  startLine := 0
  lineCount := 4

/-- The script under the commands of the language, with one frame within the first. -/
def tourProgram : Program where
  script := tourScript
  registry := Registry.builtin
  options := { maxFrameDepth := 1 }

theorem runWithin_eq_machine_tour :
    ∃ n s', ∀ k, n ≤ k →
      (Machine.step tourProgram ⟨"c1", "BOB"⟩)^[k]
        (Machine.start tourProgram { actor := ⟨"c1", "BOB"⟩ } {}) =
        .halted (.ok (some (.text "x")) s') := by
  have hflat : tourProgram.Flat := by
    intro line c hc
    have hmem := Table.mem_values_of_get? hc
    simp only [tourProgram, tourScript, Table.values, List.map_cons, List.map_nil, List.mem_cons,
      List.not_mem_nil, or_false] at hmem
    rcases hmem with rfl | rfl | rfl | rfl
    · exact .plain ⟨rfl, rfl⟩ rfl rfl
    · refine .branch ⟨rfl, rfl⟩ rfl fun d hd => ?_
      cases List.mem_singleton.mp hd
      exact .plain ⟨rfl, rfl⟩ rfl rfl
    · exact .plain ⟨rfl, rfl⟩ rfl rfl
    · exact .plain ⟨rfl, rfl⟩ rfl rfl
  obtain ⟨n, result, -, hhalts, hrun⟩ := runWithin_eq_machine hflat { actor := ⟨"c1", "BOB"⟩ } {}
  have hresult := hrun 2 (Nat.lt_succ_self 1)
  subst hresult
  exact ⟨n, _, hhalts⟩

end StageScript
