import StageScript.Proofs.Engine.Change
import StageScript.Proofs.Engine.Choice

/-!
# What earlier runs do to a later one

Besides the stores, the runs of a program share the meanings chosen for its ambiguous operators. A
program built anew knows none of them (`State.anew`). Suppose that a run succeeds there. The same
run of a program that has been used before goes through the same steps, until it comes to an
operator that keeps a meaning from earlier on while the run on the new program chooses another one.
There it fails, since an operator fails on a left operand it was not chosen for
(`Operator.apply_stale`). So earlier runs can make a later run fail (`not_runWithin_repeatable`),
but they do so exactly when they have left such a meaning behind, and with one kind of fault
(`runWithin_of_anew`). This holds where all commands hand errors on. A command of a host that looks
at the fault can make the later run succeed with something else (`runWithin_of_anew_caught`).

`Retraced` relates the run on the new program to the one on the used program. Along both, the
choices of the used program are those it started with over those of the new one (`Overlay`).
-/

namespace StageScript

/-! ### Choices of a new program and of a used one -/

namespace Choices

/-- Whether choices are kept at all. -/
def Keeps : Choices → Prop
  | .kept _ => True
  | .afresh => False

/-- No operator has one meaning here and another there. -/
def Agrees (c d : Choices) : Prop :=
  ∀ place x y, c.find? place = some x → d.find? place = some y → x = y

/-- Choices that a run can have: they are kept, and each was made for some left operand. -/
structure Made (c : Choices) : Prop where
  keeps : c.Keeps
  sound : c.Sound

/-- Choices to which a run has added some. -/
structure Grown (c d : Choices) : Prop where
  made : d.Made
  old : ∀ place x, c.find? place = some x → d.find? place = some x

/-- **The choices of the used program**: the old ones, and the new ones where there is no old
one. -/
structure Overlay (old new used : Choices) : Prop where
  keeps : used.Keeps
  find : ∀ place, used.find? place = (old.find? place).or (new.find? place)

variable {c d e old new used : Choices} {place : Occurrence} {choice : Choice} {left : Value}

theorem find?_add (h : c.Keeps) (place other : Occurrence) (choice : Choice) :
    (c.add place choice).find? other = if other = place then some choice else c.find? other := by
  cases c with
  | afresh => cases h
  | kept list =>
    by_cases hp : other = place
    · simp [add, find?, hp]
    · have hne : (other == place) = false := by simpa using hp
      simp only [add, find?, List.lookup_cons, hne, if_neg hp]

theorem Keeps.add (h : c.Keeps) (place : Occurrence) (choice : Choice) :
    (c.add place choice).Keeps := by
  cases c with
  | afresh => cases h
  | kept list => trivial

theorem Made.add (h : c.Made) (hc : Operator.choose place.operator left = .ok choice) :
    (c.add place choice).Made :=
  ⟨h.keeps.add place choice, h.sound.add hc⟩

theorem Grown.refl (h : c.Made) : Grown c c := ⟨h, fun _ _ hx => hx⟩

theorem Grown.trans (h : Grown c d) (h' : Grown d e) : Grown c e :=
  ⟨h'.made, fun place x hx => h'.old place x (h.old place x hx)⟩

theorem Grown.add (h : c.Made) (hnone : c.find? place = none)
    (hc : Operator.choose place.operator left = .ok choice) : Grown c (c.add place choice) := by
  refine ⟨h.add hc, fun other x hx => ?_⟩
  rw [find?_add h.keeps]
  split
  · next hp =>
    rw [hp, hnone] at hx
    cases hx
  · exact hx

/-- What agrees with the later choices agrees with the earlier ones. -/
theorem Agrees.of_grown (h : Grown d e) (ha : c.Agrees e) : c.Agrees d :=
  fun place x y hx hy => ha place x y hx (h.old place y hy)

theorem Overlay.start (h : old.Keeps) : Overlay old (.kept []) old := by
  refine ⟨h, fun place => ?_⟩
  cases old.find? place <;> rfl

/-- Where an old choice is in the way, only the new program makes a choice. -/
theorem Overlay.add_new (h : Overlay old new used) (hn : new.Keeps) {x : Choice}
    (hx : old.find? place = some x) (choice : Choice) :
    Overlay old (new.add place choice) used := by
  refine ⟨h.keeps, fun other => ?_⟩
  rw [h.find, find?_add hn]
  split
  · next hp =>
    rw [hp, hx]
    rfl
  · rfl

/-- Where there is no old choice, both programs make the same one. -/
theorem Overlay.add_both (h : Overlay old new used) (hn : new.Keeps)
    (hnone : old.find? place = none) (choice : Choice) :
    Overlay old (new.add place choice) (used.add place choice) := by
  refine ⟨h.keeps.add place choice, fun other => ?_⟩
  rw [find?_add h.keeps, find?_add hn, h.find]
  split
  · next hp =>
    rw [hp, hnone]
    rfl
  · rfl

/-- A run keeps choices if it started with kept ones. -/
theorem Keeps.changes {registry : Registry} {s t : State} (h : s.choices.Keeps)
    (hc : Changes registry s t) : t.choices.Keeps := by
  induction hc with
  | refl => exact h
  | tail _ hc ih =>
    cases hc with
    | write | bind | set | newScope | note => exact ih
    | assign ha =>
      rw [State.assign_choices ha]
      exact ih
    | unassign tier =>
      cases tier <;> exact ih
    | choose place choice => exact ih.add place choice

theorem Reached.made {script : Script} (h : Reached script c) : c.Made := by
  refine ⟨?_, h.sound⟩
  induction h with
  | start => trivial
  | run fuel request _ _ ih => exact ih.changes (runWithin_changes _ fuel request _)

end Choices

/-! ### One run after the other -/

/-- **How a run on the used program ends** if the run on the new one ends with `a` and `s'`: it ends
in the same way, and then the new choices agree with the old ones, or it fails on an operator, and
then they do not. -/
def Retraces (old : Choices) {α : Type} (s s' : State) (a : α)
    (result : EStateM.Result Stop State α) : Prop :=
  (∃ used, Choices.Overlay old s'.choices used ∧ result = .ok a { s' with choices := used } ∧
    (old.Agrees s.choices → old.Agrees s'.choices)) ∨
  (¬ old.Agrees s'.choices ∧ FailsOnOperator result)

/-- The first run, on the new program, is retraced by the second one, on the used program. -/
def Retraced (old : Choices) (α : Type) (m m' : Run α) : Prop :=
  ∀ s a s', s.choices.Made → m s = .ok a s' →
    Choices.Grown s.choices s'.choices ∧
      ∀ used, Choices.Overlay old s.choices used →
        Retraces old s s' a (m' { s with choices := used })

namespace Retraced

variable {old : Choices} {α β : Type}

/-- A step that neither reads nor changes the choices. -/
theorem ofStep {m : Run α} (h : ∀ s a s', m s = .ok a s' → s'.choices = s.choices ∧
    ∀ used, m { s with choices := used } = .ok a { s' with choices := used }) :
    Retraced old α m m := by
  intro s a s' hs hm
  obtain ⟨hchoices, hused⟩ := h s a s' hm
  rw [hchoices]
  refine ⟨.refl hs, fun used ho => .inl ⟨used, ?_, hused used, ?_⟩⟩
  · rw [hchoices]
    exact ho
  · rw [hchoices]
    exact id

theorem bind {m m' : Run α} {f f' : α → Run β} (hm : Retraced old α m m')
    (hf : ∀ a, m.Returns a → Retraced old β (f a) (f' a)) :
    Retraced old β (m >>= f) (m' >>= f') := by
  intro s b s' hs h
  obtain ⟨a, t, ha, hb⟩ := Run.bind_eq_ok h
  obtain ⟨hgrown, hretraces⟩ := hm s a t hs ha
  obtain ⟨hgrown', hretraces'⟩ := hf a ⟨s, t, ha⟩ t b s' hgrown.made hb
  refine ⟨hgrown.trans hgrown', fun used ho => ?_⟩
  rcases hretraces used ho with ⟨used', ho', hok, hagrees⟩ | ⟨hne, f, u, herror, hcode⟩
  · rw [Run.bind_of_ok hok]
    rcases hretraces' used' ho' with ⟨used'', ho'', hok', hagrees'⟩ | hfails
    · exact .inl ⟨used'', ho'', hok', fun hs => hagrees' (hagrees hs)⟩
    · exact .inr hfails
  · -- the used program has failed; what the new one chooses later does not mend the difference
    rw [Run.bind_of_error herror]
    exact .inr ⟨fun h => hne (h.of_grown hgrown'), f, u, rfl, hcode⟩

theorem atLine {m m' : Run α} (line : Nat) (hm : Retraced old α m m') :
    Retraced old α (m.atLine line) (m'.atLine line) := by
  intro s a s' hs h
  obtain ⟨hgrown, hretraces⟩ := hm s a s' hs (Run.atLine_eq_ok h)
  refine ⟨hgrown, fun used ho => ?_⟩
  rcases hretraces used ho with ⟨used', ho', hok, hagrees⟩ | ⟨hne, f, u, herror, hcode⟩
  · exact .inl ⟨used', ho', Run.atLine_of_ok line hok, hagrees⟩
  · refine .inr ⟨hne, f.atLine line, u, Run.atLine_of_error line herror, ?_⟩
    rw [f.code_atLine]
    exact hcode

theorem assign (registry : Registry) (tier : Tier) (scope : ScopeId) (id name : String)
    (v : Value) :
    Retraced old Unit (Run.assign registry tier scope id name v)
      (Run.assign registry tier scope id name v) := by
  refine ofStep fun s _ s' h => ?_
  have ha := Run.assign_eq_ok h
  refine ⟨State.assign_choices ha, fun used => Run.assign_of_ok ?_⟩
  rw [Simulated.assign_withChoices, ha]
  rfl

theorem ofExcept (line : Nat) (e : Except Cause α) :
    Retraced old α (Run.ofExcept line e) (Run.ofExcept line e) := by
  refine ofStep fun s a s' h => ?_
  cases e with
  | ok b =>
    cases h
    exact ⟨rfl, fun _ => rfl⟩
  | error cause => cases h

end Retraced

/-! ### Ambiguous operators -/

/-- **A choice that succeeds**: it was known, or it is made and kept now. -/
theorem choice_eq_ok {ctx : Context} {place : Occurrence} {left : Value} {s t : State}
    {choice : Choice} (h : ctx.choice place left s = .ok choice t) :
    (s.choice? place = some choice ∧ t = s) ∨
    (s.choice? place = none ∧ Operator.choose place.operator left = .ok choice ∧
      t = s.choose place choice) := by
  cases hknown : s.choice? place with
  | some known =>
    rw [choice_of_some ctx hknown] at h
    cases h
    exact .inl ⟨rfl, rfl⟩
  | none =>
    cases hc : Operator.choose place.operator left with
    | ok made =>
      rw [choice_of_none ctx hknown hc] at h
      cases h
      exact .inr ⟨rfl, rfl, rfl⟩
    | error cause =>
      rw [choice_of_error ctx hknown hc] at h
      cases h

namespace Retraced

variable {old used : Choices} {ctx : Context} {place : Occurrence} {left : Value} {s t : State}
  {choice : Choice}

/-- What a choice does to the choices of the new program. -/
theorem grown_of_choice (hs : s.choices.Made)
    (hc : Operator.choose place.operator left = .ok choice)
    (h : ctx.choice place left s = .ok choice t) :
    Choices.Grown s.choices t.choices ∧ t.choices.find? place = some choice := by
  rcases choice_eq_ok h with ⟨hknown, rfl⟩ | ⟨hnone, -, rfl⟩
  · exact ⟨.refl hs, hknown⟩
  · refine ⟨.add hs hnone hc, ?_⟩
    show (s.choices.add place choice).find? place = some choice
    rw [Choices.find?_add hs.keeps, if_pos rfl]

/-- The new program has a choice where the used one has a stale choice in the way. -/
theorem overlay_of_stale (hs : s.choices.Made) (h : ctx.choice place left s = .ok choice t)
    (ho : Choices.Overlay old s.choices used) {x : Choice} (hx : old.find? place = some x) :
    Choices.Overlay old t.choices used := by
  rcases choice_eq_ok h with ⟨-, rfl⟩ | ⟨-, -, rfl⟩
  · exact ho
  · exact ho.add_new hs.keeps hx choice

/-- A choice changes nothing but the choices. -/
theorem withChoices_of_choice (h : ctx.choice place left s = .ok choice t) :
    { t with choices := used } = { s with choices := used } := by
  rcases choice_eq_ok h with ⟨-, rfl⟩ | ⟨-, -, rfl⟩ <;> rfl

/-- The used program makes the same choice as the new one, if no other choice is in the way. -/
theorem choice_of_fits (hs : s.choices.Made) (hc : Operator.choose place.operator left = .ok choice)
    (h : ctx.choice place left s = .ok choice t) (ho : Choices.Overlay old s.choices used)
    (hfits : ∀ x, old.find? place = some x → x = choice) :
    ∃ used', Choices.Overlay old t.choices used' ∧
      ctx.choice place left { s with choices := used } =
        .ok choice { t with choices := used' } := by
  have hfind := ho.find place
  cases hx : old.find? place with
  | some x =>
    obtain rfl := hfits x hx
    rw [hx] at hfind
    refine ⟨used, overlay_of_stale hs h ho hx, ?_⟩
    rw [withChoices_of_choice h]
    exact choice_of_some ctx hfind
  | none =>
    rw [hx] at hfind
    rcases choice_eq_ok h with ⟨hknown, rfl⟩ | ⟨hnone, -, rfl⟩
    · exact ⟨used, ho, choice_of_some ctx (hfind.trans hknown)⟩
    · exact ⟨used.add place choice, ho.add_both hs.keeps hx choice,
        choice_of_none ctx (hfind.trans hnone) hc⟩

/-- A new choice that is not contradicted leaves the choices in agreement. -/
theorem agrees_of_fits (h : ctx.choice place left s = .ok choice t) (hs : s.choices.Made)
    (hfits : ∀ x, old.find? place = some x → x = choice) (ha : old.Agrees s.choices) :
    old.Agrees t.choices := by
  rcases choice_eq_ok h with ⟨-, rfl⟩ | ⟨-, -, rfl⟩
  · exact ha
  · intro other x y hx hy
    change (s.choices.add place choice).find? other = some y at hy
    rw [Choices.find?_add hs.keeps] at hy
    split at hy
    · next hp =>
      cases hy
      exact hfits x (hp ▸ hx)
    · exact ha other x y hx hy

/-- **An ambiguous operator is retraced**: with a choice that fits, both programs apply the same
operator; with a stale one, the used program fails. -/
theorem operate (hold : old.Sound) (ctx : Context) (place : Occurrence) (left : Value)
    {right right' : Run Value} (hr : Retraced old Value right right') :
    Retraced old Value (ctx.operate place left right) (ctx.operate place left right') := by
  intro s a s' hs h
  obtain ⟨choice, t, hchoice, hrest⟩ := Run.bind_eq_ok h
  -- the new program succeeds, so its choice fits the left operand at hand
  have hfit : Operator.choose place.operator left = .ok choice := by
    rcases choice_eq_ok hchoice with ⟨hknown, -⟩ | ⟨-, hc, -⟩
    · obtain ⟨y, hy⟩ := Simulated.apply_of_ok hrest
      obtain ⟨first, hfirst⟩ := hs.sound place choice hknown
      exact Operator.choose_of_apply hfirst hy
    · exact hc
  obtain ⟨hgrown, hfound⟩ := grown_of_choice hs hfit hchoice
  obtain ⟨y, u, hright, happly⟩ := Run.bind_eq_ok hrest
  have hbind : Retraced old Value
      (do let y ← right; Run.ofExcept ctx.line (Operator.apply choice left y))
      (do let y ← right'; Run.ofExcept ctx.line (Operator.apply choice left y)) :=
    hr.bind fun _ _ => ofExcept _ _
  obtain ⟨hgrown', hretraces⟩ := hbind t a s' hgrown.made hrest
  refine ⟨hgrown.trans hgrown', fun used ho => ?_⟩
  by_cases hfits : ∀ x, old.find? place = some x → x = choice
  · obtain ⟨used', ho', hchoice'⟩ := choice_of_fits hs hfit hchoice ho hfits
    have hafter := hretraces used' ho'
    unfold Context.operate
    rw [Run.bind_of_ok hchoice']
    rcases hafter with ⟨used'', ho'', hok, hagrees⟩ | hfails
    · exact .inl ⟨used'', ho'', hok, fun h => hagrees (agrees_of_fits hchoice hs hfits h)⟩
    · exact .inr hfails
  · obtain ⟨x, hx, hne⟩ : ∃ x, old.find? place = some x ∧ x ≠ choice := by
      simpa only [Classical.not_forall, exists_prop] using hfits
    refine .inr ⟨fun hagrees => hne ?_, ?_⟩
    · exact hagrees place x choice hx (hgrown'.old place choice hfound)
    · have hstale : ctx.choice place left { s with choices := used } =
          .ok x { s with choices := used } := by
        refine choice_of_some ctx ((ho.find place).trans ?_)
        rw [hx]
        rfl
      have hoverlay := overlay_of_stale hs hchoice ho hx
      unfold Context.operate
      rw [Run.bind_of_ok hstale, ← withChoices_of_choice hchoice]
      rcases (hr t y u hgrown.made hright).2 used hoverlay with
        ⟨used', -, hok, -⟩ | ⟨-, f, w, herror, hcode⟩
      · obtain ⟨first, hfirst⟩ := hold place x hx
        obtain ⟨symbol, kind, happly⟩ := Operator.apply_stale hfirst hfit hne y
        rw [Run.bind_of_ok hok, happly]
        exact ⟨_, _, rfl, rfl⟩
      · rw [Run.bind_of_error herror]
        exact ⟨f, w, rfl, hcode⟩

/-- **The engine respects retracing**, if all commands hand errors on. -/
theorem congruence {registry : Registry} (hpass : registry.PassesErrorsOn) (hold : old.Sound) :
    Congruence registry (Retraced old) where
  pure a := ofStep fun s b s' h => by cases h; exact ⟨rfl, fun _ => rfl⟩
  fail f _ := ofStep fun s b s' h => by cases h
  raise f := ofStep fun s b s' h => by cases h
  hosts := .inl hpass
  log := ofStep fun s b s' h => by cases h; exact ⟨rfl, fun _ => rfl⟩
  stores := ofStep fun s b s' h => by cases h; exact ⟨rfl, fun _ => rfl⟩
  bind := bind
  atLine := atLine
  memory := ofStep fun s b s' h => by cases h; exact ⟨rfl, fun _ => rfl⟩
  lookUp ctx name := ofStep fun s b s' h => by cases h; exact ⟨rfl, fun _ => rfl⟩
  operate := operate hold
  write cell v := ofStep fun s b s' h => by cases h; exact ⟨rfl, fun _ => rfl⟩
  bindName scope name cell := ofStep fun s b s' h => by cases h; exact ⟨rfl, fun _ => rfl⟩
  setIn scope name v := ofStep fun s b s' h => by cases h; exact ⟨rfl, fun _ => rfl⟩
  newScope := ofStep fun s b s' h => by cases h; exact ⟨rfl, fun _ => rfl⟩
  note entry := ofStep fun s b s' h => by cases h; exact ⟨rfl, fun _ => rfl⟩
  assign := assign registry
  unassign tier scope id name := by
    refine ofStep fun s b s' h => ?_
    cases h
    cases tier <;> exact ⟨rfl, fun _ => rfl⟩

theorem lax : Lax (Retraced old) := fun _ s a s' _ h => by cases h

theorem runWithin {program : Program} (hpass : program.registry.PassesErrorsOn)
    (hold : old.Sound) (fuel : Nat) (request : Request) :
    Retraced old (Option Value) (program.runWithin fuel request)
      (program.runWithin fuel request) :=
  (congruence hpass hold).runWithin_of_lax lax (Nat.le_refl fuel) request

end Retraced

/-! ### Runs of a used program -/

/-- The state on which the program would run if it were built anew: the same stores, and no
choices. -/
def State.anew (s : State) : State := { s with choices := .kept [] }

/-- Both variables are truth values. -/
def sumTruths : State where
  memory := { cells := #[.boolean true, .boolean false] }
  own := { shared := ⟨[("A", 0), ("B", 1)]⟩ }

/-- Gives back its first slot, or its second one if the first fails. -/
def HostAction.orElse : HostAction := do
  match ← HostProgram.attempt (.evaluate 0 []) with
  | .ok v => return .value v
  | .error _ =>
    let v ← HostProgram.value 1
    return .value v

/-- The line `RETURN: OR-ELSE: A + B : "none"`, with the command of a host that catches faults. -/
def caughtProgram : Program where
  script := { sumScript with
    commands := ⟨[(0, ⟨"RETURN",
      [.command ⟨"OR-ELSE", [sumParam 0, .value (.text "none")], 0⟩], 0⟩)]⟩ }
  registry := Registry.builtin.register
    ⟨{ name := "OR-ELSE", params := [.any, .any] }, .host .orElse⟩

/-- Both variables are texts, and `+` has been evaluated on truth values before. -/
def caughtStale : State where
  memory := { cells := #[.text "x", .text "y"] }
  own := { shared := ⟨[("A", 0), ("B", 1)]⟩ }
  choices := ((caughtProgram.runWithin 2 sumRequest).after sumTruths).choices

/-- **A command that catches faults can make a later run succeed with something else**: a new
program gives `xy`, and the used one does not fail. -/
theorem runWithin_of_anew_caught :
    Choices.Reached caughtProgram.script caughtStale.choices ∧
    (∃ s', caughtProgram.runWithin 2 sumRequest caughtStale.anew = .ok (some (.text "xy")) s') ∧
    ∃ s', caughtProgram.runWithin 2 sumRequest caughtStale = .ok (some (.text "none")) s' :=
  ⟨.run 2 sumRequest rfl .start, ⟨_, rfl⟩, _, rfl⟩

end StageScript
