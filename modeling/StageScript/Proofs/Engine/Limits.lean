import StageScript.Proofs.Engine.Settle
import StageScript.Proofs.Engine.Shared

/-!
# Raising the limits

The limits of a program bound the frames within frames and the tail calls and jumps of one line.
Nothing reads them but the two tests that stop a run with a fault of their own. So a run that ends
under some limits, and not by running into one of them, is the same run under all higher limits
(`runWithin_of_higher_limits`).

`Roomier` says of two runs that they are the same, unless the first one runs into a bound
(`Stop.IsBound`). It is a congruence, if all commands hand errors on: a command that looked at the
fault of a limit could go on. What a command does in its place does not depend on the limits
at all (`execute_withOptions`), so they matter only where frames are entered and where tail calls
and jumps are followed.
-/

namespace StageScript

/-- A program under other limits. -/
def Program.withOptions (program : Program) (options : Options) : Program :=
  { program with options }

/-! ### What does not depend on the limits -/

section WithOptions

variable (program : Program) (options : Options) (settle : Settle) (ctx : Context)

/-- **Executing a command does not depend on the limits.** -/
theorem execute_withOptions (budget : Nat) (c : Command) :
    execute (program.withOptions options) settle budget ctx c =
      execute program settle budget ctx c := by
  have hscript : (program.withOptions options).script = program.script := rfl
  have hperform : ∀ ctx type, perform (program.withOptions options) settle budget ctx type =
      perform program settle budget ctx type := fun ctx type =>
    perform_of_shared settle hscript rfl budget ctx type fun _ _ _ _ _ => rfl
  unfold execute
  simp only [hperform]
  rfl

end WithOptions

/-! ### Running into a bound -/

/-- The run ran into a bound: of fuel, of frames within frames or of chained commands. -/
def Stop.IsBound : Stop → Prop
  | .outOfFuel => True
  | .fault f => f.code = "ENGINE_CALL_DEPTH" ∨ f.code = "ENGINE_TAIL_CALL_LIMIT"

theorem Stop.IsBound.atLine {e : Stop} (h : e.IsBound) (line : Nat) : (e.atLine line).IsBound := by
  cases e with
  | outOfFuel => trivial
  | fault f =>
    show (f.atLine line).code = _ ∨ (f.atLine line).code = _
    rw [f.code_atLine]
    exact h

/-- **The second run has at least as much room.** It is the first run, unless that one runs into a
bound. -/
def Roomier (α : Type) (m m' : Run α) : Prop :=
  ∀ s, (∃ e t, m s = .error e t ∧ e.IsBound) ∨ m' s = m s

namespace Roomier

variable {α β : Type} {m m' : Run α}

theorem refl (m : Run α) : Roomier α m m := fun _ => .inr rfl

theorem of_bound {f : Fault} (h : (Stop.fault f).IsBound) : Roomier α (Run.fail f) m' :=
  fun s => .inl ⟨.fault f, s, rfl, h⟩

theorem lax : Lax Roomier := fun _ s => .inl ⟨.outOfFuel, s, rfl, trivial⟩

theorem bind {f f' : α → Run β} (hm : Roomier α m m')
    (hf : ∀ a, m.Returns a → Roomier β (f a) (f' a)) : Roomier β (m >>= f) (m' >>= f') := by
  intro s
  rcases hm s with ⟨e, t, he, hbound⟩ | hsame
  · exact .inl ⟨e, t, Run.bind_of_error he, hbound⟩
  · cases h : m s with
    | error e t => exact .inr (by rw [Run.bind_of_error h, Run.bind_of_error (hsame.trans h)])
    | ok a t =>
      rw [Run.bind_of_ok h, Run.bind_of_ok (hsame.trans h)]
      exact hf a ⟨s, t, h⟩ t

theorem atLine (line : Nat) (hm : Roomier α m m') :
    Roomier α (m.atLine line) (m'.atLine line) := by
  intro s
  rcases hm s with ⟨e, t, he, hbound⟩ | hsame
  · exact .inl ⟨e.atLine line, t, Run.atLine_of_error line he, hbound.atLine line⟩
  · right
    unfold Run.atLine
    rw [hsame]

theorem congruence {registry : Registry} (hpass : registry.PassesErrorsOn) :
    Congruence registry Roomier where
  pure _ := refl _
  fail _ _ := refl _
  raise _ := refl _
  hosts := .inl hpass
  log := refl _
  stores := refl _
  bind := bind
  atLine := atLine
  memory := refl _
  lookUp _ _ := refl _
  operate _ _ _ _ _ hr := bind (refl _) fun _ _ => bind hr fun _ _ => refl _
  write _ _ := refl _
  bindName _ _ _ := refl _
  setIn _ _ _ := refl _
  newScope := refl _
  note _ := refl _
  assign _ _ _ _ _ := refl _
  unassign _ _ _ _ := refl _

end Roomier

/-! ### Higher limits -/

/-- Limits that are at least as high. -/
structure Options.Allows (options' options : Options) : Prop where
  tailCalls : options.maxTailCalls ≤ options'.maxTailCalls
  frameDepth : options.maxFrameDepth ≤ options'.maxFrameDepth

section Higher

variable {program : Program} {options : Options} (hpass : program.registry.PassesErrorsOn)
  (ho : options.Allows program.options)
include hpass ho

/-- A frame that is refused has run into a bound; one that is entered is entered under the higher
limits, too. -/
theorem Roomier.frameRun {settle settle' : Settle}
    (hs : ∀ ctx c, Roomier Settled (settle ctx c) (settle' ctx c)) (frame : Frame) (start : Nat) :
    Roomier Exit (frame.run program settle start)
      (frame.run (program.withOptions options) settle' start) := by
  unfold Frame.run
  by_cases hdepth : program.options.maxFrameDepth < frame.depth
  · rw [if_pos hdepth]
    exact of_bound (.inl rfl)
  · have hdepth' : ¬ (program.withOptions options).options.maxFrameDepth < frame.depth :=
      Nat.not_lt.mpr (Nat.le_trans (Nat.not_lt.mp hdepth) ho.frameDepth)
    have hscript : (program.withOptions options).script = program.script := rfl
    rw [if_neg hdepth, if_neg hdepth', runLines_of_script settle' hscript]
    exact (congruence hpass).runLines (fun _ line c _ => (hs _ c).atLine line)
      (Nat.not_lt.mp hdepth) _ _ _

theorem Roomier.ultimate {settle settle' : Settle}
    (hs : ∀ ctx c, Roomier Settled (settle ctx c) (settle' ctx c)) {budget budget' : Nat}
    (hb : budget ≤ budget') (ctx : Context) {left left' : Nat} (hleft : left ≤ left')
    (outcome : Outcome) :
    Roomier Settled (ultimate program settle budget ctx left outcome)
      (ultimate (program.withOptions options) settle' budget' ctx left' outcome) := by
  induction left generalizing left' outcome with
  | zero =>
    cases outcome with
    | value v | signal s =>
      cases left' <;> exact refl _
    | tailCall c | jump j => exact of_bound (.inr rfl)
  | succ left ih =>
    obtain ⟨left', rfl⟩ : ∃ k, left' = k + 1 := ⟨left' - 1, by omega⟩
    have hleft : left ≤ left' := by omega
    cases outcome with
    | value v | signal s => exact refl _
    | tailCall c =>
      refine Roomier.bind ?_ fun o _ => ih hleft o
      rw [execute_withOptions]
      exact (congruence hpass).execute (fun _ d _ => hs _ d) fun _ _ _ => .more lax hb
    | jump j =>
      refine Roomier.bind ?_ fun o _ => ih hleft o
      exact (Roomier.frameRun hpass ho hs _ _).bind fun how _ => refl _

/-- **Settling a command under higher limits.** -/
theorem settle_roomier {fuel fuel' : Nat} (hf : fuel ≤ fuel') (ctx : Context) (c : Command) :
    Roomier Settled (settle program fuel ctx c)
      (settle (program.withOptions options) fuel' ctx c) := by
  induction fuel generalizing fuel' ctx c with
  | zero => exact Roomier.lax _
  | succ fuel ih =>
    obtain ⟨fuel', rfl⟩ : ∃ k, fuel' = k + 1 := ⟨fuel' - 1, by omega⟩
    have hf : fuel ≤ fuel' := by omega
    have hs := fun ctx c => ih hf ctx c
    unfold settle
    rw [execute_withOptions]
    refine Roomier.bind ?_ fun o _ => Roomier.ultimate hpass ho hs hf ctx ho.tailCalls o
    exact (Roomier.congruence hpass).execute (fun _ d _ => hs _ d)
      fun _ _ _ => .more Roomier.lax hf

theorem runWithin_roomier {fuel fuel' : Nat} (hf : fuel ≤ fuel') (request : Request) :
    Roomier (Option Value) (program.runWithin fuel request)
      ((program.withOptions options).runWithin fuel' request) := by
  have h := Roomier.congruence hpass
  have hbind : ∀ scope bindings,
      (program.withOptions options).bindHostNames scope request.actor bindings =
        program.bindHostNames scope request.actor bindings := by
    intro scope bindings
    induction bindings with
    | nil => rfl
    | cons binding bindings ih =>
      simp only [Program.bindHostNames, ih]
      rfl
  refine h.bind h.newScope fun scope _ => ?_
  rw [hbind]
  refine h.bind (h.bindHostNames scope request.actor _) fun _ _ => ?_
  have hframe := Roomier.frameRun hpass ho fun ctx c => settle_roomier hpass ho hf ctx c
  exact h.bind (hframe _ _) fun how _ => h.pure _

/-- **Raising the limits only removes the faults of the limits.** Let all commands hand errors on. A
run that ends, be it with a value or a fault, and is not stopped by a limit, ends under all higher
limits in the same way: with the same value or the same fault, and in the same state. More fuel
makes no difference either. -/
theorem runWithin_of_higher_limits {fuel fuel' : Nat} (hf : fuel ≤ fuel') (request : Request)
    (s : State) (hends : ∀ t, program.runWithin fuel request s ≠ .error .outOfFuel t)
    (hlimit : ∀ f t, program.runWithin fuel request s = .error (.fault f) t →
      f.code ≠ "ENGINE_CALL_DEPTH" ∧ f.code ≠ "ENGINE_TAIL_CALL_LIMIT") :
    (program.withOptions options).runWithin fuel' request s =
      program.runWithin fuel request s := by
  rcases runWithin_roomier hpass ho hf request s with ⟨e, t, he, hbound⟩ | hsame
  · cases e with
    | outOfFuel => exact absurd he (hends t)
    | fault f =>
      obtain ⟨hdepth, htail⟩ := hlimit f t he
      rcases hbound with hcode | hcode
      · exact absurd hcode hdepth
      · exact absurd hcode htail
  · exact hsame

end Higher

/-- A script that returns on line 0 what a call of the label on line 2 gives. -/
def callScript : Script where
  labels := ⟨[("F", 2)]⟩
  lineLabels := ⟨[(2, "F")]⟩
  commands := ⟨[(0, ⟨"RETURN", [.command ⟨"DO", [.value (.text "F"), .absent], 0⟩], 0⟩),
    (2, ⟨"RETURN", [.value (.text "done")], 2⟩)]⟩
  startLine := 0
  lineCount := 3

/-- The script with room for one frame within the first and one jump on a line. -/
def callProgram : Program where
  script := callScript
  registry := Registry.builtin
  options := ⟨1, 1⟩

theorem runWithin_of_higher_limits_call :
    ∃ s', (callProgram.withOptions {}).runWithin 9 { actor := ⟨"c1", "BOB"⟩ } {} =
      .ok (some (.text "done")) s' := by
  have hrun : ∃ s', callProgram.runWithin 3 { actor := ⟨"c1", "BOB"⟩ } {} =
      .ok (some (.text "done")) s' := ⟨_, rfl⟩
  obtain ⟨s', hrun⟩ := hrun
  refine ⟨s', ?_⟩
  rw [runWithin_of_higher_limits Registry.passesErrorsOn_builtin ⟨by decide, by decide⟩
    (by decide : 3 ≤ 9) _ _
    (fun t h => by rw [hrun] at h; cases h) (fun f t h => by rw [hrun] at h; cases h)]
  exact hrun

end StageScript
