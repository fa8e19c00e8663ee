import StageScript.Proofs.Engine.Settle
import StageScript.Proofs.Store.Slot

/-!
# Remembered choices are sound

The meaning of an ambiguous operator is chosen from its left operand when it is first evaluated, and
the choice is reused wherever the operator is evaluated again: in loops, in other frames and in
later runs, where the left operand may be of another kind. Then the choice no longer fits. It can
still do no harm: an operator applied to a left operand it was not chosen for fails
(`apply_stale`), so a run that succeeds has used every choice only where it would have been made
again.

`State.afresh` forgets all choices and keeps none from then on; on such a state every evaluation
chooses again (`choice_afresh`). The relation `Simulated` says that a run ends with remembered
choices as it does without them, if it does not fail for an operator. It is a congruence, and so it
holds of every run of a program; a run that succeeds does so in the same way without its choices
(`runWithin_afresh`).
-/

namespace StageScript

/-! ### Choices that were made -/

/-- Each choice was made for some left operand. -/
def Choices.Sound (choices : Choices) : Prop :=
  ∀ place choice, choices.find? place = some choice →
    ∃ left, Operator.choose place.operator left = .ok choice

/-- **The choices that runs of a script can leave behind.** Any number of runs may have been made,
each of them under its own registry, directory and limits, on any stores, and with any fuel; a run
that fails leaves its choices too. -/
inductive Choices.Reached (script : Script) : Choices → Prop
  | start : Reached script (.kept [])
  | run {program : Program} {s : State} (fuel : Nat) (request : Request)
    (hp : program.script = script) (hs : Reached script s.choices) :
    Reached script ((program.runWithin fuel request).after s).choices

/-- The state in which no choice is known and none will be kept. -/
def State.afresh (s : State) : State := { s with choices := .afresh }

namespace Choices

theorem sound_start : Sound (.kept []) := by
  intro place choice h
  cases h

theorem Sound.add {choices : Choices} (h : choices.Sound) {place : Occurrence} {choice : Choice}
    {left : Value} (hc : Operator.choose place.operator left = .ok choice) :
    (choices.add place choice).Sound := by
  intro place' choice' hf
  cases choices with
  | afresh => cases hf
  | kept list =>
    by_cases hp : place' = place
    · subst hp
      refine ⟨left, ?_⟩
      have : choice = choice' := by simpa [Choices.add, Choices.find?] using hf
      rw [hc, this]
    · refine h place' choice' ?_
      have hne : (place' == place) = false := by simpa using hp
      simpa only [Choices.add, Choices.find?, List.lookup_cons, hne] using hf

end Choices

/-! ### Which left operands a choice is for -/

/-- The kind of left operand an operator is chosen for. -/
def Choice.leftKind : Choice → ValueKind
  | .add | .subtract => .number
  | .concat => .text
  | .union | .difference => .collection
  | .and => .boolean

namespace Operator

variable {operator : AmbiguousOperator} {choice : Choice} {first left right v : Value}

theorem kind_of_choose (h : choose operator left = .ok choice) : left.kind = choice.leftKind := by
  cases operator <;> cases left <;> cases h <;> rfl

/-- The choice depends on nothing but the kind of the left operand. -/
theorem choose_of_kind_eq (hk : left.kind = first.kind) (h : choose operator first = .ok choice) :
    choose operator left = .ok choice := by
  cases operator <;> cases first <;> cases h <;> cases left <;> first | rfl | cases hk

theorem kind_of_apply (h : apply choice left right = .ok v) : left.kind = choice.leftKind := by
  cases choice <;> cases left <;> first | rfl | cases h

/-- **An operator succeeds only where it would be chosen again.** -/
theorem choose_of_apply (hc : choose operator first = .ok choice)
    (ha : apply choice left right = .ok v) : choose operator left = .ok choice :=
  choose_of_kind_eq ((kind_of_apply ha).trans (kind_of_choose hc).symm) hc

/-- An operator that was not chosen for the kind of its left operand fails. -/
theorem apply_of_kind_ne (h : left.kind ≠ choice.leftKind) :
    ∃ symbol kind, apply choice left right = .error (.unsupportedOperator symbol kind) := by
  cases choice <;> cases left <;> first | exact absurd rfl h | exact ⟨_, _, rfl⟩

/-- **A stale choice fails.** -/
theorem apply_stale {stale : Choice} (hs : choose operator first = .ok stale)
    (hc : choose operator left = .ok choice) (hne : stale ≠ choice) (right : Value) :
    ∃ symbol kind, apply stale left right = .error (.unsupportedOperator symbol kind) := by
  refine apply_of_kind_ne fun hkind => hne ?_
  have hagain := choose_of_kind_eq (hkind.trans (kind_of_choose hs).symm) hs
  rw [hc] at hagain
  cases hagain
  rfl

/-- An operator that is not chosen has refused its left operand. -/
theorem choose_eq_error {cause : Cause} (h : choose operator left = .error cause) :
    cause = .unsupportedOperator operator.symbol left.kind := by
  cases operator <;> cases left <;> cases h <;> rfl

end Operator

/-! ### Runs keep choices sound -/

theorem State.assign_choices {s s' : State} {registry : Registry} {tier : Tier} {scope : ScopeId}
    {actor name : String} {v : Value} (h : s.assign registry tier scope actor name v = .ok s') :
    s'.choices = s.choices := by
  rcases State.assign_cases h with ⟨cell, -, rfl⟩ | ⟨-, -, rfl⟩
  · rfl
  · cases tier <;> rfl

/-- A run leaves sound choices sound. The relation is about the first run alone. -/
def SoundlyChoosing (α : Type) (m _m' : Run α) : Prop :=
  ∀ s : State, s.choices.Sound → (m.after s).choices.Sound

namespace SoundlyChoosing

variable {α β : Type} {m m' : Run α}

/-- A step that does not change the choices. -/
theorem of_keeps (h : ∀ s, (m.after s).choices = s.choices) : SoundlyChoosing α m m' := by
  intro s hs
  rw [h]
  exact hs

theorem bind {f f' : α → Run β} (hm : SoundlyChoosing α m m')
    (hf : ∀ a, m.Returns a → SoundlyChoosing β (f a) (f' a)) :
    SoundlyChoosing β (m >>= f) (m' >>= f') := by
  intro s hs
  have hafter := hm s hs
  cases h : m s with
  | ok a t =>
    rw [Run.after_of_ok h] at hafter
    rw [Run.after_bind_of_ok h]
    exact hf a ⟨s, t, h⟩ t hafter
  | error e t =>
    rw [Run.after_of_error h] at hafter
    rw [Run.after_of_error (Run.bind_of_error h)]
    exact hafter

theorem ofExcept (line : Nat) (e : Except Cause α) :
    SoundlyChoosing α (Run.ofExcept line e) (Run.ofExcept line e) :=
  of_keeps fun s => by cases e <;> rfl

/-- A choice that is kept was made for the left operand at hand. -/
theorem choice (ctx : Context) (place : Occurrence) (left : Value) :
    SoundlyChoosing Choice (ctx.choice place left) (ctx.choice place left) := by
  intro s hs
  cases hknown : s.choice? place with
  | some choice =>
    rw [Run.after_of_ok (choice_of_some ctx hknown)]
    exact hs
  | none =>
    cases hc : Operator.choose place.operator left with
    | ok choice =>
      rw [Run.after_of_ok (choice_of_none ctx hknown hc)]
      exact hs.add hc
    | error cause =>
      rw [Run.after_of_error (choice_of_error ctx hknown hc)]
      exact hs

theorem assign (registry : Registry) (tier : Tier) (scope : ScopeId) (id name : String)
    (v : Value) :
    SoundlyChoosing Unit (Run.assign registry tier scope id name v)
      (Run.assign registry tier scope id name v) := by
  refine of_keeps fun s => ?_
  cases h : s.assign registry tier scope id name v with
  | ok t =>
    rw [Run.after_of_ok (Run.assign_of_ok h)]
    exact State.assign_choices h
  | error f => rw [Run.after_of_error (Run.assign_of_error h)]

/-- **Every run keeps choices sound**, whatever the commands of a host do. -/
theorem congruence (registry : Registry) : Congruence registry SoundlyChoosing where
  pure a := of_keeps fun s => rfl
  fail f _ := of_keeps fun s => rfl
  raise f := of_keeps fun s => rfl
  hosts := .inr fun hm s hs => by
    rw [Run.after_attempt]
    exact hm s hs
  bind := bind
  atLine line hm s hs := by
    rw [Run.after_atLine]
    exact hm s hs
  memory := of_keeps fun s => rfl
  lookUp ctx name := of_keeps fun s => rfl
  log := of_keeps fun s => rfl
  stores := of_keeps fun s => rfl
  operate ctx place left _ _ hr :=
    bind (choice ctx place left) fun _ _ => bind hr fun _ _ => ofExcept _ _
  write cell v := of_keeps fun s => rfl
  bindName scope name cell := of_keeps fun s => rfl
  setIn scope name v := of_keeps fun s => rfl
  newScope := of_keeps fun s => rfl
  note entry := of_keeps fun s => rfl
  assign := assign registry
  unassign tier scope id name := of_keeps fun s => by cases tier <;> rfl

theorem lax : Lax SoundlyChoosing := fun _ _ hs => hs

theorem runWithin (program : Program) (fuel : Nat) (request : Request) :
    SoundlyChoosing (Option Value) (program.runWithin fuel request)
      (program.runWithin fuel request) :=
  (congruence program.registry).runWithin_of_lax lax (Nat.le_refl fuel) request

end SoundlyChoosing

theorem Choices.Reached.sound {script : Script} {choices : Choices} (h : Reached script choices) :
    choices.Sound := by
  induction h with
  | start => exact sound_start
  | run fuel request hp hs ih => exact SoundlyChoosing.runWithin _ fuel request _ ih

/-! ### The simulation -/

/-- A run fails because an operator cannot be applied. -/
def FailsOnOperator {α : Type} (result : EStateM.Result Stop State α) : Prop :=
  ∃ f t, result = .error (.fault f) t ∧ f.code = "ENGINE_UNSUPPORTED_OPERATOR"

/-- A result with the choices forgotten. -/
def forgotten {α : Type} : EStateM.Result Stop State α → EStateM.Result Stop State α
  | .ok a s => .ok a s.afresh
  | .error e s => .error e s.afresh

/-- **How a run with remembered choices ends**, given how it ends without: in the same way, or it
fails on an operator, or it fails in some way where the other one fails on an operator. -/
def Recalls {α : Type} (result fresh : EStateM.Result Stop State α) : Prop :=
  forgotten result = fresh ∨ FailsOnOperator result ∨
    FailsOnOperator fresh ∧ ∃ e t, result = .error e t

theorem Recalls.of_ok {α : Type} {result fresh : EStateM.Result Stop State α} {a : α} {t : State}
    (h : Recalls result fresh) (hr : result = .ok a t) : fresh = .ok a t.afresh := by
  subst hr
  rcases h with hsame | ⟨_, _, hfails, -⟩ | ⟨-, _, _, hfails⟩
  · exact hsame.symm
  · cases hfails
  · cases hfails

/-- **A run with remembered choices is simulated by one without.** It leaves choices sound, and ends
as it may. -/
def Simulated (α : Type) (m m' : Run α) : Prop :=
  SoundlyChoosing α m m' ∧ ∀ s : State, s.choices.Sound → Recalls (m s) (m' s.afresh)

namespace Simulated

variable {α β : Type}

/-- A step that neither reads nor changes the choices. -/
theorem ofStep {m : Run α} (hk : ∀ s, (m.after s).choices = s.choices)
    (hm : ∀ s, forgotten (m s) = m s.afresh) : Simulated α m m :=
  ⟨.of_keeps hk, fun s _ => .inl (hm s)⟩

theorem bind {m m' : Run α} {f f' : α → Run β} (hm : Simulated α m m')
    (hf : ∀ a, m.Returns a → Simulated β (f a) (f' a)) : Simulated β (m >>= f) (m' >>= f') := by
  refine ⟨hm.1.bind fun a ha => (hf a ha).1, fun s hs => ?_⟩
  have hsound := hm.1 s hs
  rcases hm.2 s hs with hsame | ⟨f, t, hfails, hcode⟩ | ⟨⟨f, t, hfails, hcode⟩, e, u, herror⟩
  · cases h : m s with
    | ok a t =>
      rw [h] at hsame
      rw [Run.after_of_ok h] at hsound
      rw [Run.bind_of_ok h, Run.bind_of_ok hsame.symm]
      exact (hf a ⟨s, t, h⟩).2 t hsound
    | error e t =>
      rw [h] at hsame
      rw [Run.bind_of_error h, Run.bind_of_error hsame.symm]
      exact .inl rfl
  · rw [Run.bind_of_error hfails]
    exact .inr (.inl ⟨f, t, rfl, hcode⟩)
  · rw [Run.bind_of_error hfails, Run.bind_of_error herror]
    exact .inr (.inr ⟨⟨f, t, rfl, hcode⟩, e, u, rfl⟩)

theorem atLine {m m' : Run α} (line : Nat) (hm : Simulated α m m') :
    Simulated α (m.atLine line) (m'.atLine line) := by
  refine ⟨fun s hs => ?_, fun s hs => ?_⟩
  · rw [Run.after_atLine]
    exact hm.1 s hs
  have hcode : ∀ f : Fault, f.code = "ENGINE_UNSUPPORTED_OPERATOR" →
      (f.atLine line).code = "ENGINE_UNSUPPORTED_OPERATOR" := fun f h => by rw [f.code_atLine, h]
  rcases hm.2 s hs with hsame | ⟨f, t, hfails, hf⟩ | ⟨⟨f, t, hfails, hf⟩, e, u, herror⟩
  · cases h : m s with
    | ok a t =>
      rw [h] at hsame
      rw [Run.atLine_of_ok line h, Run.atLine_of_ok line hsame.symm]
      exact .inl rfl
    | error e t =>
      rw [h] at hsame
      rw [Run.atLine_of_error line h, Run.atLine_of_error line hsame.symm]
      exact .inl rfl
  · rw [Run.atLine_of_error line hfails]
    exact .inr (.inl ⟨_, t, rfl, hcode f hf⟩)
  · rw [Run.atLine_of_error line hfails, Run.atLine_of_error line herror]
    exact .inr (.inr ⟨⟨_, t, rfl, hcode f hf⟩, _, u, rfl⟩)

theorem assign_withChoices (s : State) (choices : Choices) (registry : Registry) (tier : Tier)
    (scope : ScopeId) (actor name : String) (v : Value) :
    State.assign { s with choices } registry tier scope actor name v =
      (s.assign registry tier scope actor name v).map fun t => { t with choices } := by
  have hin : State.inTier? { s with choices } tier scope actor name =
      s.inTier? tier scope actor name := by
    cases tier <;> rfl
  have hrefusal : State.refusal? { s with choices } registry tier name =
      s.refusal? registry tier name := rfl
  unfold State.assign
  rw [hin, hrefusal]
  cases s.inTier? tier scope actor name with
  | some cell => rfl
  | none =>
    cases s.refusal? registry tier name with
    | some cause => rfl
    | none => cases tier <;> rfl

theorem assign (registry : Registry) (tier : Tier) (scope : ScopeId) (id name : String)
    (v : Value) :
    Simulated Unit (Run.assign registry tier scope id name v)
      (Run.assign registry tier scope id name v) := by
  refine ⟨SoundlyChoosing.assign registry tier scope id name v, fun s _ => .inl ?_⟩
  have hafresh : s.afresh.assign registry tier scope id name v =
      (s.assign registry tier scope id name v).map State.afresh :=
    assign_withChoices s .afresh registry tier scope id name v
  cases h : s.assign registry tier scope id name v with
  | ok t =>
    rw [h] at hafresh
    rw [Run.assign_of_ok h, Run.assign_of_ok hafresh]
    rfl
  | error f =>
    rw [h] at hafresh
    rw [Run.assign_of_error h, Run.assign_of_error hafresh]
    rfl

end Simulated

/-- Without remembered choices, the operator is chosen from the left operand at hand. -/
theorem choice_afresh (ctx : Context) (place : Occurrence) (left : Value) (s : State) :
    ctx.choice place left s.afresh =
      Run.ofExcept ctx.line (Operator.choose place.operator left) s.afresh := by
  cases hc : Operator.choose place.operator left with
  | ok choice => exact choice_of_none ctx rfl hc
  | error cause => exact choice_of_error ctx rfl hc

namespace Simulated

theorem ofExcept {α : Type} (line : Nat) (e : Except Cause α) :
    Simulated α (Run.ofExcept line e) (Run.ofExcept line e) := by
  cases e <;> exact ofStep (fun _ => rfl) fun _ => rfl

/-- What is left to do once an operator is chosen. -/
theorem applyRight (line : Nat) (choice : Choice) (left : Value) {right right' : Run Value}
    (hr : Simulated Value right right') :
    Simulated Value (do let y ← right; Run.ofExcept line (Operator.apply choice left y))
      (do let y ← right'; Run.ofExcept line (Operator.apply choice left y)) :=
  hr.bind fun _ _ => ofExcept line _

theorem apply_of_ok {line : Nat} {choice : Choice} {left a : Value} {right : Run Value}
    {s s' : State}
    (h : (do let y ← right; Run.ofExcept line (Operator.apply choice left y)) s = .ok a s') :
    ∃ y, Operator.apply choice left y = .ok a := by
  obtain ⟨y, t, -, hy⟩ := Run.bind_eq_ok h
  refine ⟨y, ?_⟩
  cases ha : Operator.apply choice left y with
  | ok v =>
    rw [ha] at hy
    cases hy
    rfl
  | error cause =>
    rw [ha] at hy
    cases hy

/-- **Where a choice is stale**, the right operand is evaluated all the same, and then the operator
fails. -/
theorem recalls_stale {line : Nat} {stale choice : Choice} {left first : Value}
    {operator : AmbiguousOperator} {right right' : Run Value} {s : State}
    (hs : s.choices.Sound) (hr : Simulated Value right right')
    (hfirst : Operator.choose operator first = .ok stale)
    (hc : Operator.choose operator left = .ok choice) (hne : stale ≠ choice) :
    Recalls ((do let y ← right; Run.ofExcept line (Operator.apply stale left y)) s)
      ((do let y ← right'; Run.ofExcept line (Operator.apply choice left y)) s.afresh) := by
  cases h : right s with
  | ok y t =>
    obtain ⟨symbol, kind, happly⟩ := Operator.apply_stale hfirst hc hne y
    rw [Run.bind_of_ok h, happly]
    exact .inr (.inl ⟨_, t, rfl, rfl⟩)
  | error e t =>
    have hright := hr.2 s hs
    rw [h] at hright
    rw [Run.bind_of_error h]
    rcases hright with hsame | hfails | ⟨⟨f, u, hfails, hcode⟩, -⟩
    · rw [Run.bind_of_error hsame.symm]
      exact .inl rfl
    · obtain ⟨f, u, hfails, hcode⟩ := hfails
      cases hfails
      exact .inr (.inl ⟨f, t, rfl, hcode⟩)
    · rw [Run.bind_of_error hfails]
      exact .inr (.inr ⟨⟨f, u, rfl, hcode⟩, e, t, rfl⟩)

/-- **A remembered choice does what it would do if it were made again**, or it makes the operator
fail. -/
theorem operate (ctx : Context) (place : Occurrence) (left : Value) {right right' : Run Value}
    (hr : Simulated Value right right') :
    Simulated Value (ctx.operate place left right) (ctx.operate place left right') := by
  have hsound := (SoundlyChoosing.choice ctx place left).bind fun choice _ =>
    (applyRight ctx.line choice left hr).1
  refine ⟨hsound, fun s hs => ?_⟩
  unfold Context.operate
  cases hc : Operator.choose place.operator left with
  | ok choice =>
    have hagain : ctx.choice place left s.afresh = .ok choice s.afresh := by
      rw [choice_afresh, hc]
      rfl
    rw [Run.bind_of_ok hagain]
    cases hknown : s.choice? place with
    | none =>
      rw [Run.bind_of_ok (choice_of_none ctx hknown hc)]
      exact (applyRight ctx.line choice left hr).2 (s.choose place choice) (hs.add hc)
    | some known =>
      rw [Run.bind_of_ok (choice_of_some ctx hknown)]
      obtain ⟨first, hfirst⟩ := hs place known hknown
      by_cases hsame : known = choice
      · subst hsame
        exact (applyRight ctx.line known left hr).2 s hs
      · exact recalls_stale hs hr hfirst hc hsame
  | error cause =>
    have hfault := Operator.choose_eq_error hc
    have hagain : ctx.choice place left s.afresh =
        .error (.fault (.on ctx.line cause)) s.afresh := by
      rw [choice_afresh, hc]
      rfl
    rw [Run.bind_of_error hagain]
    cases hknown : s.choice? place with
    | none =>
      rw [Run.bind_of_error (choice_of_error ctx hknown hc)]
      exact .inl rfl
    | some known =>
      rw [Run.bind_of_ok (choice_of_some ctx hknown)]
      obtain ⟨first, hfirst⟩ := hs place known hknown
      -- the known choice was made for another kind, so it does not succeed
      refine .inr (.inr ⟨⟨_, _, rfl, by rw [hfault]; rfl⟩, ?_⟩)
      cases h : (do
          let y ← right
          Run.ofExcept ctx.line (Operator.apply known left y) : Run Value) s with
      | error e t => exact ⟨e, t, rfl⟩
      | ok a t =>
        obtain ⟨y, hy⟩ := apply_of_ok h
        cases hc.symm.trans (Operator.choose_of_apply hfirst hy)

/-- **The simulation is respected by the engine**, if all commands hand errors on: a command that
looked at a fault could go on where the run without choices succeeds. -/
theorem congruence {registry : Registry} (hpass : registry.PassesErrorsOn) :
    Congruence registry Simulated where
  pure a := ofStep (fun _ => rfl) fun _ => rfl
  fail f _ := ofStep (fun _ => rfl) fun _ => rfl
  raise f := ofStep (fun _ => rfl) fun _ => rfl
  hosts := .inl hpass
  log := ofStep (fun _ => rfl) fun _ => rfl
  stores := ofStep (fun _ => rfl) fun _ => rfl
  bind := bind
  atLine := atLine
  memory := ofStep (fun _ => rfl) fun _ => rfl
  lookUp ctx name := ofStep (fun _ => rfl) fun _ => rfl
  operate := operate
  write cell v := ofStep (fun _ => rfl) fun _ => rfl
  bindName scope name cell := ofStep (fun _ => rfl) fun _ => rfl
  setIn scope name v := ofStep (fun _ => rfl) fun _ => rfl
  newScope := ofStep (fun _ => rfl) fun _ => rfl
  note entry := ofStep (fun _ => rfl) fun _ => rfl
  assign := assign registry
  unassign tier scope id name := by
    cases tier <;> exact ofStep (fun _ => rfl) fun _ => rfl

theorem exhausted {α : Type} : Simulated α Context.exhausted Context.exhausted :=
  ofStep (fun _ => rfl) fun _ => rfl

theorem settle {program : Program} (hpass : program.registry.PassesErrorsOn) (fuel : Nat)
    (ctx : Context) (c : Command) :
    Simulated Settled (settle program fuel ctx c) (settle program fuel ctx c) :=
  (congruence hpass).settle_same exhausted fuel ctx c

theorem runWithin {program : Program} (hpass : program.registry.PassesErrorsOn) (fuel : Nat)
    (request : Request) :
    Simulated (Option Value) (program.runWithin fuel request) (program.runWithin fuel request) :=
  (congruence hpass).runWithin_same exhausted fuel request

end Simulated

/-- The sum of two variables, as it is written in a line. -/
def sumParam (line : Nat) : Param :=
  .ambiguous ⟨.plus, line, 10⟩ (.variable "A") (.variable "B")

/-- The script of the lines `SAY: A + B` and `RETURN: A + B`. -/
def sumScript : Script where
  labels := Table.empty
  lineLabels := Table.empty
  commands := ⟨[(0, ⟨"SAY", [sumParam 0], 0⟩), (1, ⟨"RETURN", [sumParam 1], 1⟩)]⟩
  startLine := 0
  lineCount := 2

/-- A run on behalf of a character. -/
def sumRequest : Request where
  actor := ⟨"c1", "BOB"⟩

end StageScript
