import StageScript.Proofs.Engine.Extension
import StageScript.Proofs.Engine.Safe
import StageScript.Proofs.Engine.Signals

/-!
# How far the limits let a run go

A run has two limits: one on the tail calls and jumps that are followed for one command, and one on
frames within frames. What is shown here is how a script keeps clear of the first, and what the
second keeps a run from.

Only the branches of an `IF` are run by tail calls, and a branch is written inside its `IF`. A jump
is followed once, as its frame leaves nothing to be followed. So it takes at most one step for each
`IF` of a chain, in which each is a branch of the one before, and one for the jump at its end
(`Outcome.OfCommand.followedIn`). Loops, values and frames follow what they run with a count of
their own; that is why a chain is all that matters, however long a run is.

To say at which depths commands are run, the engine gets a watcher, who is told the depth of the
frame each time a command is about to be run (`settleWatched`). A watcher who does nothing within
the limit never does anything, so no command is run any deeper. Both is stated in
`runWithin_keeps_limits`.
-/

namespace StageScript

open Run

/-! ### Chains of branches -/

namespace Command

/-- The command is an `IF` or an `IF-NOT`. -/
def IsIf (c : Command) : Prop := c.name = "IF" ∨ c.name = "IF-NOT"

/-- A command is the branch of another one for the condition being true, or false. -/
def HasBranch (c d : Command) : Prop := c.param 1 = .command d ∨ c.param 2 = .command d

/-- **A chain of `IF`s**, each a branch of the one before. -/
inductive IsIfChain : List Command → Prop
  | single {c : Command} (hc : c.IsIf) : IsIfChain [c]
  | cons {c d : Command} {cs : List Command} (hc : c.IsIf) (hd : c.HasBranch d)
      (h : IsIfChain (d :: cs)) : IsIfChain (c :: d :: cs)

/-- No chain of `IF`s that starts with the command is longer than this. -/
def IfsAtMost (n : Nat) (c : Command) : Prop :=
  ∀ cs, IsIfChain (c :: cs) → (c :: cs).length ≤ n

theorem Behaves.isIf {c : Command} {negated : Bool} (h : c.Behaves (.branch negated)) :
    c.IsIf := by
  have hall : ∀ type ∈ Registry.builtinCommands, type.behaviour.runSlots = [1, 2] →
      type.signature.name = "IF" ∨ type.signature.name = "IF-NOT" := by decide
  obtain ⟨signature, h⟩ := h
  obtain ⟨hmem, hname⟩ := Registry.mem_of_builtin h
  rw [IsIf, ← hname]
  exact hall _ hmem rfl

/-- The chains of a branch are shorter than those of its `IF`. -/
theorem IfsAtMost.branch {n : Nat} {c d : Command} (h : c.IfsAtMost n) (hc : c.IsIf)
    (hd : c.HasBranch d) : ∃ m, n = m + 1 ∧ d.IfsAtMost m := by
  obtain ⟨m, rfl⟩ := Nat.exists_eq_add_of_le' (h [] (.single hc))
  exact ⟨m, rfl, fun cs hcs => Nat.le_of_succ_le_succ (h _ (.cons hc hd hcs))⟩

/-- **A command of a line with short chains**: all commands in it are well formed, and no chain of
`IF`s in it is longer than this. -/
def HasShortChains (n number : Nat) (c : Command) : Prop :=
  ∀ d, Within d c → d.WellFormed Registry.builtin number ∧ d.IfsAtMost n

namespace HasShortChains

variable {n number : Nat} {c d : Command} (h : c.HasShortChains n number)
include h

theorem inner (hd : d ∈ c.inner) : d.HasShortChains n number := fun e he => h e (.inner hd he)

theorem wellFormed : c.WellFormedThroughout Registry.builtin number := fun d hd => (h d hd).1

theorem ifsAtMost : c.IfsAtMost n := (h c (.refl c)).2

end HasShortChains

end Command

/-- No chain of `IF`s on the lines of the program is longer than this. -/
def Program.IfsAtMost (program : Program) (n : Nat) : Prop :=
  ∀ number c d, program.script.commandAt? number = some c → Command.Within d c → d.IfsAtMost n

/-! ### Following within the limit -/

/-- **What can be followed in so many steps**: a branch with one step for itself, one for each `IF`
of a chain that it starts and one for the jump at the end of the chain. -/
def Outcome.FollowedIn (steps : Nat) : Outcome → Prop
  | .value _ | .signal _ => True
  | .tailCall d => ∃ n, d.IfsAtMost n ∧ n + 2 ≤ steps
  | .jump _ => 1 ≤ steps

namespace Outcome

theorem FollowedIn.mono {steps steps' : Nat} (hle : steps ≤ steps') :
    ∀ {outcome : Outcome}, outcome.FollowedIn steps → outcome.FollowedIn steps'
  | .value _, _ | .signal _, _ => trivial
  | .tailCall _, ⟨n, hn, hsteps⟩ => ⟨n, hn, Nat.le_trans hsteps hle⟩
  | .jump _, h => Nat.le_trans h hle

theorem IsFinal.followedIn {steps : Nat} :
    ∀ {outcome : Outcome}, outcome.IsFinal → outcome.FollowedIn steps
  | .value _, _ | .signal _, _ => trivial

/-- **The chains of a command bound the steps that it takes to follow it.** -/
theorem OfCommand.followedIn {n : Nat} {c : Command} (hc : c.IfsAtMost n) :
    ∀ {outcome : Outcome}, outcome.OfCommand c → outcome.FollowedIn (n + 1)
  | .value _, _ | .signal _, _ => trivial
  | .jump _, _ => Nat.le_add_left 1 n
  | .tailCall d, ⟨negated, i, hi, hbranch, hd⟩ => by
    have hslot : c.HasBranch d := by
      rcases List.mem_pair.mp hi with rfl | rfl
      · exact .inl hd
      · exact .inr hd
    obtain ⟨m, rfl, hm⟩ := hc.branch hbranch.isIf hslot
    exact ⟨m, hm, Nat.le_refl _⟩

end Outcome

/-- A fault other than that of the limit of tail calls. -/
def Fault.KeepsTailCalls (f : Fault) : Prop := f.code ≠ "ENGINE_TAIL_CALL_LIMIT"

theorem Fault.KeepsTailCalls.atLine {f : Fault} (h : f.KeepsTailCalls) (line : Nat) :
    (f.atLine line).KeepsTailCalls := by
  rw [Fault.KeepsTailCalls, f.code_atLine]
  exact h

theorem Cause.code_ne_tailCallLimit {cause : Cause}
    (h : cause.isOrdinary = true ∨ cause.isNameRefusal = true) :
    cause.code ≠ "ENGINE_TAIL_CALL_LIMIT" := by
  cases cause with
  | tailCallLimit limit | raised code text => rcases h with h | h <;> cases h
  | _ => simp [Cause.code]

section Follow

variable {program : Program} (hprogram : program.IsCompiled) {n : Nat}
include hprogram

theorem hasShortChains_of_line (hifs : program.IfsAtMost n) {number : Nat} {c : Command}
    (hc : program.script.commandAt? number = some c) : c.HasShortChains n number := fun d hd =>
  ⟨hprogram.lines number c hc d hd, hifs number c d hc hd⟩

/-- Following what can be followed in the steps that are left. Each step uses up one of them, and a
branch leaves its own chains to be followed. -/
theorem stops_ultimate_of_followedIn {settle : Settle} {ctx : Context} {number : Nat}
    (hs : ∀ ctx' c, c.HasShortChains n number → (settle ctx' c).Stops Fault.KeepsTailCalls)
    (hof : ∀ ctx c, (settle ctx c).Yields (Settled.OfCommand c))
    (hfollow : ∀ j, (follow program settle ctx j).Stops Fault.KeepsTailCalls) (budget : Nat)
    {left : Nat} {c : Command} {outcome : Outcome} (hc : c.HasShortChains n number)
    (ho : outcome.Fits c) (hleft : outcome.FollowedIn left) :
    (ultimate program settle budget ctx left outcome).Stops Fault.KeepsTailCalls := by
  have hctx : ctx.Admits Fault.KeepsTailCalls := fun _ h => Cause.code_ne_tailCallLimit (.inl h)
  induction left generalizing c outcome with
  | zero =>
    cases outcome with
    | value v | signal s => exact stops_pure _
    | tailCall d =>
      obtain ⟨k, -, hk⟩ := hleft
      omega
    | jump j => cases hleft
  | succ left ih =>
    cases outcome with
    | value v | signal s => exact stops_pure _
    | tailCall d =>
      obtain ⟨k, hd, hk⟩ := hleft
      have hwell := hc.inner ho
      refine (hprogram.stops_execute hctx (fun ctx' _ e he => hs ctx' e (hwell.inner he))
        hwell.wellFormed budget).bind_of fun o hret => ih hwell (execute_fits o hret) ?_
      have hout := execute_ofCommand hprogram.registry hof o hret
      exact (hout.followedIn hd).mono (by omega)
    | jump j =>
      refine (hfollow j).bind_of fun o hret => ?_
      have hfinal := follow_isFinal j o hret
      exact ih hc hfinal.fits hfinal.followedIn

/-- **Settling a command with short chains keeps the limit of tail calls**, by induction on the
fuel. -/
theorem stops_settle_of_shortChains (hifs : program.IfsAtMost n)
    (hn : n + 1 ≤ program.options.maxTailCalls) (fuel : Nat) (ctx : Context) (number : Nat)
    (c : Command) (hc : c.HasShortChains n number) :
    (settle program fuel ctx c).Stops Fault.KeepsTailCalls := by
  induction fuel generalizing ctx number c with
  | zero =>
    intro s f t hf
    cases hf
  | succ fuel ih =>
    have hctx : ctx.Admits Fault.KeepsTailCalls := fun _ h => Cause.code_ne_tailCallLimit (.inl h)
    have hof := settle_ofCommand hprogram.registry fuel
    -- the lines of the frame of a jump are followed with a count of their own
    have hfollow : ∀ j, (follow program (settle program fuel) ctx j).Stops
        Fault.KeepsTailCalls := by
      intro j
      refine (stops_frameRun (fun _ => by simp [Fault.KeepsTailCalls, Fault.code, Cause.code])
        (fun hjumped => by cases hjumped) ?_ _).bind fun how => stops_pure _
      intro number d hd
      have hshort := hasShortChains_of_line hprogram hifs hd
      exact (ih _ number d hshort).atLine fun f hf => hf.atLine number
    refine (hprogram.stops_execute hctx (fun ctx' _ d hd => ih ctx' number d (hc.inner hd))
      hc.wellFormed fuel).bind_of fun o hret => ?_
    have hout := execute_ofCommand hprogram.registry hof o hret
    exact stops_ultimate_of_followedIn hprogram (fun ctx' d hd => ih ctx' number d hd) hof hfollow
      fuel hc (execute_fits o hret) ((hout.followedIn hc.ifsAtMost).mono hn)

/-- A run keeps the limit of tail calls, if the chains of its lines are short enough. -/
theorem stops_runWithin_of_shortChains (hifs : program.IfsAtMost n)
    (hn : n + 1 ≤ program.options.maxTailCalls) (fuel : Nat) (request : Request) :
    (program.runWithin fuel request).Stops Fault.KeepsTailCalls := by
  have hbind : ∀ scope, (program.bindHostNames scope request.actor
      request.bindings.entries).Stops Fault.KeepsTailCalls := fun scope s f t h =>
    Cause.code_ne_tailCallLimit (.inr (isNameRefusal_of_bindHostNames h))
  refine (stops_of_ok fun s => ⟨_, _, rfl⟩).bind fun scope => (hbind scope).bind fun _ => ?_
  refine (stops_frameRun (fun _ => ?_) (fun _ line => ?_) ?_ _).bind fun how => stops_pure _
  · simp [Fault.KeepsTailCalls, Fault.code, Cause.code]
  · simp [Fault.KeepsTailCalls, Fault.code, Fault.on, Cause.code]
  · intro number d hd
    have hshort := hasShortChains_of_line hprogram hifs hd
    exact (stops_settle_of_shortChains hprogram hifs hn fuel _ number d hshort).atLine
      fun f hf => hf.atLine number

end Follow

/-! ### Watching the depth -/

/-- Settling, with a watcher who is told the depth of the frame each time a command is about to be
run. -/
def settleWatched (program : Program) (watch : Nat → Run Unit) : (fuel : Nat) → Settle
  | 0 => fun _ _ => throw .outOfFuel
  | fuel + 1 => fun ctx command => do
    watch ctx.depth
    let outcome ← execute program (settleWatched program watch fuel) fuel ctx command
    ultimate program (settleWatched program watch fuel) fuel ctx program.options.maxTailCalls
      outcome

namespace Program

variable (program : Program)

/-- A run in which the commands of the lines are settled in some way. -/
def runSettling (settle : Settle) (request : Request) : Run (Option Value) := do
  let scope ← Run.newScope
  program.bindHostNames scope request.actor request.bindings.entries
  let frame : Frame := ⟨request.actor, scope, 0, false⟩
  let how ← frame.run program settle (program.startLine request.start)
  return result how

theorem runSettling_settle (fuel : Nat) (request : Request) :
    program.runSettling (settle program fuel) request = program.runWithin fuel request := rfl

end Program

section Watched

variable {program : Program} {watch : Nat → Run Unit}
  (hwatch : ∀ depth ≤ program.options.maxFrameDepth, watch depth = pure ())
include hwatch

/-- **Within the limit the watcher has nothing to do.** The commands in a command are run as deep as
it is, and the lines of a jump one deeper, but only where that is within the limit. -/
theorem settleWatched_eq (fuel : Nat) (ctx : Context) (c : Command)
    (hctx : ctx.depth ≤ program.options.maxFrameDepth) :
    settleWatched program watch fuel ctx c = settle program fuel ctx c := by
  induction fuel generalizing ctx c with
  | zero => rfl
  | succ fuel ih =>
    have hcongr := Identical.congruence program.registry
    have hcovers : Covers Identical program (settleWatched program watch fuel)
        (settle program fuel) ctx.depth c :=
      ⟨fun ctx' _ e hdepth _ _ => ih ctx' e (hdepth.symm ▸ hctx),
        fun hdeeper ctx' _ d hdepth _ => ih ctx' d (hdepth.symm ▸ hdeeper)⟩
    have hbudget : Budgeted Identical program fuel fuel c := fun _ _ _ _ _ => .same rfl fuel
    have hrun := hcongr.bind (hcongr.execute_within hcovers (.refl c) hbudget) fun o ho =>
      hcongr.ultimate hcovers hbudget (.refl c) program.options.maxTailCalls o (execute_fits o ho)
    simp only [settleWatched, hwatch ctx.depth hctx, pure_bind]
    exact hrun

theorem runSettling_settleWatched (fuel : Nat) (request : Request) :
    program.runSettling (settleWatched program watch fuel) request =
      program.runWithin fuel request := by
  have hcongr := Identical.congruence program.registry
  rw [← program.runSettling_settle]
  refine hcongr.bind rfl fun scope _ => hcongr.bind rfl fun _ _ => ?_
  refine hcongr.bind (hcongr.frameRun ?_ _) fun how _ => rfl
  exact fun _ line c _ => hcongr.atLine line (settleWatched_eq hwatch fuel _ c (Nat.zero_le _))

end Watched

/-- **The limits of a run.** For a compiled script with the commands of the language:
* if no chain of `IF`s on a line, each a branch of the one before, is longer than `n`, and there is
  room for `n + 1` tail calls, then no run ever stops for the limit of tail calls;
* no run ever runs a command in a frame deeper than the limit: a watcher of the depths who does
  nothing within the limit makes no difference. -/
theorem runWithin_keeps_limits {program : Program} (hprogram : program.IsCompiled) :
    (∀ n, program.IfsAtMost n → n + 1 ≤ program.options.maxTailCalls → ∀ fuel request s f t,
      program.runWithin fuel request s = .error (.fault f) t →
        f.code ≠ "ENGINE_TAIL_CALL_LIMIT") ∧
    ∀ watch : Nat → Run Unit,
      (∀ depth ≤ program.options.maxFrameDepth, watch depth = pure ()) → ∀ fuel request,
        program.runSettling (settleWatched program watch fuel) request =
          program.runWithin fuel request :=
  ⟨fun _ hifs hn fuel request s f t hrun =>
    stops_runWithin_of_shortChains hprogram hifs hn fuel request s f t hrun,
    fun _ hwatch fuel request => runSettling_settleWatched hwatch fuel request⟩

/-! ### A chain of two -/

namespace Command

theorem ifsAtMost_of_not_isIf {c : Command} (h : ¬ c.IsIf) (n : Nat) : c.IfsAtMost n := by
  intro cs hcs
  cases hcs with
  | single hc | cons hc => exact absurd hc h

theorem ifsAtMost_succ {n : Nat} {c : Command} (h : ∀ d, c.HasBranch d → d.IfsAtMost n) :
    c.IfsAtMost (n + 1) := by
  intro cs hcs
  cases hcs with
  | single => exact Nat.succ_le_succ (Nat.zero_le n)
  | cons _ hd hcs => exact Nat.succ_le_succ (h _ hd _ hcs)

/-- An `IF` with a branch for the condition being true, which it is. -/
def ifTrue (c : Command) : Command :=
  ⟨"IF", [.condition .identity (.value (.boolean true)) none, .command c, .absent], 0⟩

theorem HasBranch.of_ifTrue {c d : Command} (h : (ifTrue c).HasBranch d) : d = c := by
  rcases h with h | h <;> cases h
  rfl

theorem Within.of_ifTrue {c d : Command} (h : d.Within (ifTrue c)) : d = ifTrue c ∨ d.Within c := by
  cases h with
  | refl => exact .inl rfl
  | inner hd h =>
    cases List.mem_singleton.mp hd
    exact .inr h

/-- The jump to `A`. -/
def goToA : Command := ⟨"GO-TO", [.ofText "A", .ofLine 0], 0⟩

end Command

section Chain

open Command

/-- The script of `if: true : if: true : go-to: a`, and below it `[a]: end`. -/
def chainScript : Script where
  labels := ⟨[("A", 1), ("START", 0)]⟩
  lineLabels := ⟨[(0, "START"), (1, "A")]⟩
  commands := ⟨[(0, ifTrue (ifTrue goToA)), (1, ⟨"END", [], 1⟩)]⟩
  startLine := 0
  lineCount := 2
  postStartText := "if: true : if: true : go-to: a\n[a]: end"
  rawText := "if: true : if: true : go-to: a\n[a]: end"

/-- The script with room for some tail calls. -/
def chainProgram (maxTailCalls : Nat) : Program :=
  ⟨chainScript, Registry.builtin, {}, { maxTailCalls }⟩

theorem chainProgram_ifsAtMost (maxTailCalls : Nat) : (chainProgram maxTailCalls).IfsAtMost 2 := by
  have hgoTo : ∀ n, goToA.IfsAtMost n := ifsAtMost_of_not_isIf (by unfold IsIf goToA; decide)
  intro number c d hc hd
  rcases number with _ | _ | number
  · cases hc
    rcases hd.of_ifTrue with rfl | hd
    · refine ifsAtMost_succ fun e he => ?_
      cases he.of_ifTrue
      exact ifsAtMost_succ fun e he => he.of_ifTrue ▸ hgoTo 0
    · rcases hd.of_ifTrue with rfl | hd
      · exact ifsAtMost_succ fun e he => he.of_ifTrue ▸ hgoTo 1
      · cases hd with
        | refl => exact hgoTo 2
        | inner he => cases he
  · cases hc
    cases hd with
    | refl => exact ifsAtMost_of_not_isIf (by unfold IsIf; decide) 2
    | inner he => cases he
  · cases hc

theorem chainScript_compiled :
    Script.compile Registry.builtin (Script.lineSource chainScript.rawText) = .ok chainScript := by
  with_unfolding_all rfl

/-- The chain is followed with room for three tail calls. -/
theorem runWithin_keeps_limits_chain :
    (∀ fuel s f t, (chainProgram 3).runWithin fuel { actor := ⟨"c1", "BOB"⟩ } s =
      .error (.fault f) t → f.code ≠ "ENGINE_TAIL_CALL_LIMIT") ∧
    ∀ fuel, (chainProgram 3).runSettling (settleWatched (chainProgram 3)
        (fun depth => if depth ≤ 256 then pure () else throw .outOfFuel) fuel)
          { actor := ⟨"c1", "BOB"⟩ } =
      (chainProgram 3).runWithin fuel { actor := ⟨"c1", "BOB"⟩ } := by
  have hcompiled : (chainProgram 3).IsCompiled :=
    ⟨rfl, fun number c hc => Script.compile_wellFormed chainScript_compiled hc⟩
  obtain ⟨htailCalls, hwatched⟩ := runWithin_keeps_limits hcompiled
  refine ⟨fun fuel s f t => ?_, fun fuel => ?_⟩
  · exact htailCalls 2 (chainProgram_ifsAtMost 3) (Nat.le_refl 3) fuel _ s f t
  · exact hwatched _ (fun depth hdepth => if_pos hdepth) fuel _

/-- With room for two, the jump at the end of the chain is one too many. -/
example : ∃ f t, (chainProgram 2).runWithin 2 { actor := ⟨"c1", "BOB"⟩ } {} = .error (.fault f) t ∧
    f.code = "ENGINE_TAIL_CALL_LIMIT" := ⟨_, _, rfl, rfl⟩

end Chain

end StageScript
