import StageScript.Engine.Run
import StageScript.Proofs.Engine.Outcome

/-!
# Relations that runs respect

Settling a command makes the engine settle other commands: those nested in it, and the lines of the
frames it jumps to, one level deeper. If two ways to settle are related on all of these (`Covers`),
the commands themselves settle in a related way (`Congruence.settle_succ`). For a relation in which
a run that is out of fuel is related to every run, this gives at once that settling a command, and
running a whole program, with some fuel and with more fuel are related (`settle_of_lax`,
`runWithin_of_lax`). With the same fuel on both sides it is enough that a run that is out of fuel is
related to itself (`settle_same`, `runWithin_same`).
-/

namespace StageScript

/-- **Two ways to settle are related on all that a command can make the engine settle**, when the
command stands in a frame of some depth. -/
structure Covers (R : (α : Type) → Run α → Run α → Prop) (program : Program)
    (settle settle' : Settle) (depth : Nat) (c : Command) : Prop where
  nested : ∀ (ctx : Context) (d e : Command), ctx.depth = depth → d.Within c → e ∈ d.inner →
    R Settled (settle ctx e) (settle' ctx e)
  lines : depth < program.options.maxFrameDepth → ∀ (ctx : Context) (line : Nat) (d : Command),
    ctx.depth = depth + 1 → program.script.commandAt? line = some d →
      R Settled (settle ctx d) (settle' ctx d)

/-- If a command nested in `c` can go on for ever, then its loop may run on the two budgets. -/
def Budgeted (R : (α : Type) → Run α → Run α → Prop) (program : Program) (budget budget' : Nat)
    (c : Command) : Prop :=
  ∀ d, Command.Within d c → ∀ type, program.registry.get? d.name = some type →
    type.behaviour.isOpenEnded = true → Granted R budget budget'

/-! ### Frames -/

namespace Quiet

variable {R : (α : Type) → Run α → Run α → Prop} {program : Program} (h : Quiet R)
  {settle settle' : Settle}
include h

theorem receive (frame : Frame) (line : Nat) (signal : Signal) :
    R Exit (frame.receive line signal) (frame.receive line signal) := by
  cases signal with
  | endAll | returnValue v | returnAll v | exit how => exact h.pure _
  | goBack =>
    simp only [Frame.receive]
    split
    · exact h.pure _
    · exact h.fail _ rfl

section Lines

variable {frame : Frame}
  (hs : frame.depth ≤ program.options.maxFrameDepth → ∀ (line : Nat) (c : Command),
    program.script.commandAt? line = some c →
      R Settled ((settle (frame.context c) c).atLine line)
        ((settle' (frame.context c) c).atLine line))
include hs

theorem runLines (hd : frame.depth ≤ program.options.maxFrameDepth) (remaining line : Nat)
    (last : Option Value) :
    R Exit (frame.runLines program settle remaining line last)
      (frame.runLines program settle' remaining line last) := by
  induction remaining generalizing line last with
  | zero => exact h.pure _
  | succ remaining ih =>
    unfold Frame.runLines
    split
    · exact ih _ _
    · next c hc =>
      refine h.bind (hs hd line c hc) fun settled _ => ?_
      cases settled with
      | value v => exact ih _ _
      | signal s => exact h.receive frame line s

/-- A frame depends only on how its lines are settled. -/
theorem frameRun (start : Nat) :
    R Exit (frame.run program settle start) (frame.run program settle' start) := by
  unfold Frame.run
  split
  · exact h.fail _ rfl
  · next hd => exact h.runLines hs (Nat.not_lt.mp hd) _ _ _

end Lines

/-- Following depends only on how the commands that take over are executed and on the frames of
jumps, under the same limits. -/
theorem ultimate {program' : Program} (hoptions : program'.options = program.options)
    {ctx : Context} {c : Command} {budget budget' : Nat}
    (hexec : ∀ d : Command, d.Within c → R Outcome (execute program settle budget ctx d)
      (execute program' settle' budget' ctx d))
    (hfollow : ∀ jump, R Outcome (follow program settle ctx jump)
      (follow program' settle' ctx jump))
    {d : Command} (hd : d.Within c) (left : Nat) (outcome : Outcome)
    (ho : outcome.Fits d) :
    R Settled (StageScript.ultimate program settle budget ctx left outcome)
      (StageScript.ultimate program' settle' budget' ctx left outcome) := by
  induction left generalizing d outcome with
  | zero =>
    unfold StageScript.ultimate
    rw [hoptions]
    cases outcome with
    | value v => exact h.pure _
    | signal s => exact h.pure _
    | tailCall e => exact h.contextFail _
    | jump j => exact h.contextFail _
  | succ left ih =>
    cases outcome with
    | value v => exact h.pure _
    | signal s => exact h.pure _
    | tailCall e =>
      -- the command that takes over is nested one level deeper, still within `c`
      have he : e.Within c := (Command.Within.inner ho (.refl e)).trans hd
      exact h.bind (hexec e he) fun o ho' => ih he o (execute_fits o ho')
    | jump j =>
      exact h.bind (hfollow j) fun o ho' => ih hd o (follow_isFinal j o ho').fits

end Quiet

namespace Congruence

variable {R : (α : Type) → Run α → Run α → Prop} {program : Program}
  (h : Congruence program.registry R)
include h

section Settle

variable {settle settle' : Settle}

/-! ### Following -/

variable {ctx : Context} {c : Command} (hc : Covers R program settle settle' ctx.depth c)
include hc

theorem follow (jump : Jump) :
    R Outcome (follow program settle ctx jump) (follow program settle' ctx jump) := by
  refine h.bind (h.frameRun ?_ jump.line) fun _ _ => h.pure _
  exact fun hd line d hline => h.atLine line (hc.lines hd _ line d rfl hline)

theorem execute_within {d : Command} (hd : d.Within c) {budget budget' : Nat}
    (hb : Budgeted R program budget budget' c) :
    R Outcome (StageScript.execute program settle budget ctx d)
      (StageScript.execute program settle' budget' ctx d) :=
  h.execute (fun _ e he => hc.nested _ d e rfl hd he) (hb d hd)

theorem ultimate {budget budget' : Nat} (hb : Budgeted R program budget budget' c) {d : Command}
    (hd : d.Within c) (left : Nat) (outcome : Outcome) (ho : outcome.Fits d) :
    R Settled (ultimate program settle budget ctx left outcome)
      (ultimate program settle' budget' ctx left outcome) :=
  h.toQuiet.ultimate rfl (fun _ he => h.execute_within hc he hb) (h.follow hc) hd left outcome ho

end Settle

/-! ### Settling -/

/-- **Settling respects a congruence**, one level of fuel at a time. -/
theorem settle_succ {fuel fuel' : Nat} {ctx : Context} {c : Command}
    (hc : Covers R program (settle program fuel) (settle program fuel') ctx.depth c)
    (hb : Budgeted R program fuel fuel' c) :
    R Settled (settle program (fuel + 1) ctx c) (settle program (fuel' + 1) ctx c) :=
  h.bind (h.execute_within hc (.refl c) hb) fun o ho =>
    h.ultimate hc hb (.refl c) _ o (execute_fits o ho)

theorem settle_of_lax (lax : Lax R) {fuel fuel' : Nat} (hf : fuel ≤ fuel') (ctx : Context)
    (c : Command) : R Settled (settle program fuel ctx c) (settle program fuel' ctx c) := by
  induction fuel generalizing fuel' ctx c with
  | zero => exact lax _
  | succ fuel ih =>
    obtain ⟨fuel', rfl⟩ : ∃ k, fuel' = k + 1 := ⟨fuel' - 1, by omega⟩
    have hf : fuel ≤ fuel' := by omega
    exact h.settle_succ ⟨fun ctx _ e _ _ _ => ih hf ctx e, fun _ ctx _ d _ _ => ih hf ctx d⟩
      fun _ _ _ _ _ => .more lax hf

/-- With the same fuel, a run that is out of fuel needs to be related to itself alone. -/
theorem settle_same (hend : ∀ {α : Type}, R α Context.exhausted Context.exhausted) (fuel : Nat)
    (ctx : Context) (c : Command) :
    R Settled (settle program fuel ctx c) (settle program fuel ctx c) := by
  induction fuel generalizing ctx c with
  | zero => exact hend
  | succ fuel ih =>
    exact h.settle_succ ⟨fun ctx _ e _ _ _ => ih ctx e, fun _ ctx _ d _ _ => ih ctx d⟩
      fun _ _ _ _ _ => .same hend fuel

/-! ### Runs of a program -/

theorem bindHostNames (scope : ScopeId) (actor : Character) (bindings : List (String × Value)) :
    R Unit (program.bindHostNames scope actor bindings)
      (program.bindHostNames scope actor bindings) := by
  induction bindings with
  | nil => exact h.pure _
  | cons binding bindings ih => exact h.bind (h.assign _ _ _ _ _) fun _ _ => ih

/-- A run with two amounts of fuel, given that the lines of the first frame are related. -/
theorem runWithin {fuel fuel' : Nat}
    (hs : ∀ (ctx : Context) (line : Nat) (c : Command), ctx.depth = 0 →
      program.script.commandAt? line = some c →
        R Settled (settle program fuel ctx c) (settle program fuel' ctx c))
    (request : Request) :
    R (Option Value) (program.runWithin fuel request) (program.runWithin fuel' request) := by
  refine h.bind h.newScope fun scope _ => h.bind (h.bindHostNames _ _ _) fun _ _ => ?_
  refine h.bind (h.frameRun ?_ _) fun how _ => h.pure _
  exact fun _ line c hline => h.atLine line (hs _ line c rfl hline)

theorem runWithin_of_lax (lax : Lax R) {fuel fuel' : Nat} (hf : fuel ≤ fuel') (request : Request) :
    R (Option Value) (program.runWithin fuel request) (program.runWithin fuel' request) :=
  h.runWithin (fun ctx _ c _ _ => h.settle_of_lax lax hf ctx c) request

theorem runWithin_same (hend : ∀ {α : Type}, R α Context.exhausted Context.exhausted) (fuel : Nat)
    (request : Request) :
    R (Option Value) (program.runWithin fuel request) (program.runWithin fuel request) :=
  h.runWithin (fun ctx _ c _ _ => h.settle_same hend fuel ctx c) request

end Congruence

end StageScript
