import StageScript.Proofs.Engine.Command

/-!
# What commands hand back

A command may ask that another one be run in its place. That one always stands in a slot of the
command, so a chain of tail calls goes down the nesting of the line. It may also ask for a jump;
then, unless it is a command of a host, a `GO-TO` keeps the scope in which the command is executed,
and no command but `DO` asks for a call. `Outcome.Suits` says so of a behaviour, and `perform_suits`
that it holds of every one. A loop hands back a value, or a signal that its body has sent
(`Outcome.OfBody`).
-/

namespace StageScript

/-- An outcome that leaves nothing to be run. -/
def Outcome.IsFinal : Outcome → Prop
  | .value _ | .signal _ => True
  | .tailCall _ | .jump _ => False

/-- **The outcomes a behaviour can have**, for a command in a scope. -/
def Outcome.Suits (behaviour : Behaviour) (c : Command) (scope : ScopeId) : Outcome → Prop
  | .tailCall d => d ∈ c.inner
  | .jump j => j.kind = .goTo ∧ j.scope = scope ∨ j.kind = .call ∧ behaviour = .call ∨
      behaviour.isHost = true
  | .value _ | .signal _ => True

/-- **The outcomes of a loop**: a value, or a signal that the body sent on a pass. -/
def Outcome.OfBody (settle : Settle) (ctx : Context) (body : Command) : Outcome → Prop
  | .value _ => True
  | .signal s => ∃ index, (settle { ctx with loopIndex := index } body).Returns (.signal s)
  | .tailCall _ | .jump _ => False

/-- The outcomes a command can have: it is replaced by none but its inner commands. -/
def Outcome.Fits (c : Command) : Outcome → Prop
  | .tailCall d => d ∈ c.inner
  | .value _ | .signal _ | .jump _ => True

/-- A `GO-TO` keeps the scope. -/
def Outcome.KeepsScope (scope : ScopeId) : Outcome → Prop
  | .jump j => j.kind = .goTo → j.scope = scope
  | .value _ | .signal _ | .tailCall _ => True

namespace Outcome

variable {behaviour : Behaviour} {c : Command} {scope : ScopeId}

theorem IsFinal.suits : ∀ {outcome : Outcome}, outcome.IsFinal → outcome.Suits behaviour c scope
  | .value _, _ | .signal _, _ => trivial

theorem IsFinal.fits : ∀ {outcome : Outcome}, outcome.IsFinal → outcome.Fits c
  | .value _, _ | .signal _, _ => trivial

theorem OfBody.suits {settle : Settle} {ctx : Context} {body : Command} :
    ∀ {outcome : Outcome}, outcome.OfBody settle ctx body → outcome.Suits behaviour c scope
  | .value _, _ | .signal _, _ => trivial

theorem Suits.fits : ∀ {outcome : Outcome}, outcome.Suits behaviour c scope → outcome.Fits c
  | .tailCall _, h => h
  | .value _, _ | .signal _, _ | .jump _, _ => trivial

theorem Suits.keepsScope (hlanguage : behaviour.isHost = false) : ∀ {outcome : Outcome},
    outcome.Suits behaviour c scope → outcome.KeepsScope scope
  | .value _, _ | .signal _, _ | .tailCall _, _ => trivial
  | .jump j, h => fun hkind => by
    rcases h with ⟨-, hscope⟩ | ⟨hcall, -⟩ | hhost
    · exact hscope
    · rw [hkind] at hcall
      cases hcall
    · rw [hlanguage] at hhost
      cases hhost

end Outcome

namespace Run

variable {α β : Type}

/-- Every result of a run has a property. -/
def Yields (m : Run α) (Q : α → Prop) : Prop := ∀ a, m.Returns a → Q a

theorem Yields.mono {m : Run α} {P Q : α → Prop} (h : m.Yields P) (hpq : ∀ {a}, P a → Q a) :
    m.Yields Q := fun a ha => hpq (h a ha)

theorem yields_pure {Q : α → Prop} {a : α} (h : Q a) : (pure a : Run α).Yields Q := by
  rintro b ⟨s, s', hb⟩
  cases hb
  exact h

theorem yields_bind_of {P : α → Prop} {Q : β → Prop} {m : Run α} {f : α → Run β} (hm : m.Yields P)
    (hf : ∀ a, P a → (f a).Yields Q) : (m >>= f).Yields Q := by
  rintro b ⟨s, s', hb⟩
  obtain ⟨a, t, ha, hb⟩ := bind_eq_ok hb
  exact hf a (hm a ⟨s, t, ha⟩) b ⟨t, s', hb⟩

theorem yields_bind {Q : β → Prop} {m : Run α} {f : α → Run β} (h : ∀ a, (f a).Yields Q) :
    (m >>= f).Yields Q :=
  yields_bind_of (P := fun _ => True) (fun _ _ => trivial) fun a _ => h a

theorem yields_fail {Q : α → Prop} (f : Fault) : (fail f : Run α).Yields Q := by
  rintro b ⟨s, s', hb⟩
  cases hb

theorem yields_exhausted {Q : α → Prop} : (Context.exhausted : Run α).Yields Q := by
  rintro b ⟨s, s', hb⟩
  cases hb

end Run

open Run

namespace Context

variable {program : Program} {settle : Settle} {ctx : Context} {behaviour : Behaviour}
  {scope : ScopeId}

/-! ### Loops -/

theorem yields_pass (body : Command) (index : Option Number) :
    (pass settle { ctx with loopIndex := index } body).Yields fun signal =>
      ∀ s, signal = some s → (Outcome.signal s).OfBody settle ctx body := by
  rintro signal ⟨t, t', h⟩ s rfl
  obtain ⟨settled, u, hsettled, h⟩ := bind_eq_ok h
  cases settled <;> cases h
  exact ⟨index, t, t', hsettled⟩

theorem yields_whileLoop (negated : Bool) (body : Command) (budget : Nat) :
    (ctx.whileLoop program settle negated body budget).Yields
      (Outcome.OfBody settle ctx body) := by
  induction budget with
  | zero => exact yields_exhausted
  | succ budget ih =>
    refine yields_bind fun condition => ?_
    split
    · refine yields_bind_of (yields_pass body ctx.loopIndex) fun signal hsignal => ?_
      split
      · exact yields_pure (hsignal _ rfl)
      · exact ih
    · exact yields_pure trivial

theorem yields_forLoop (target : String) (body : Command) (budget : Nat) :
    (ctx.forLoop program settle target body budget).Yields
      (Outcome.OfBody settle ctx body) := by
  induction budget with
  | zero => exact yields_exhausted
  | succ budget ih =>
    refine yields_bind fun condition => ?_
    split
    · refine yields_bind_of (yields_pass body ctx.loopIndex) fun signal hsignal => ?_
      split
      · exact yields_pure (hsignal _ rfl)
      · exact yields_bind fun next => yields_bind fun cell => yields_bind fun _ => ih
    · exact yields_pure trivial

theorem yields_countDown (body : Command) (count : Nat) :
    (ctx.countDown settle body count).Yields (Outcome.OfBody settle ctx body) := by
  induction count with
  | zero => exact yields_pure trivial
  | succ count ih =>
    refine yields_bind_of (yields_pass body _) fun signal hsignal => ?_
    split
    · exact yields_pure (hsignal _ rfl)
    · exact ih

theorem yields_countUp (body : Command) (count index : Nat) :
    (ctx.countUp settle body count index).Yields (Outcome.OfBody settle ctx body) := by
  induction count generalizing index with
  | zero => exact yields_pure trivial
  | succ count ih =>
    refine yields_bind_of (yields_pass body _) fun signal hsignal => ?_
    split
    · exact yields_pure (hsignal _ rfl)
    · exact ih _

theorem yields_countdownLoop (cell : CellId) (body : Command) (budget : Nat) :
    (ctx.countdownLoop settle cell body budget).Yields (Outcome.OfBody settle ctx body) := by
  induction budget with
  | zero => exact yields_exhausted
  | succ budget ih =>
    refine yields_bind fun current => ?_
    split
    · exact yields_pure trivial
    · refine yields_bind fun _ => ?_
      refine yields_bind_of (yields_pass body ctx.loopIndex) fun signal hsignal => ?_
      split
      · exact yields_pure (hsignal _ rfl)
      · exact ih

theorem yields_countUpLoop (cell : CellId) (limit : Float) (body : Command) (budget : Nat) :
    (ctx.countUpLoop settle cell limit body budget).Yields (Outcome.OfBody settle ctx body) := by
  induction budget with
  | zero => exact yields_exhausted
  | succ budget ih =>
    refine yields_bind fun current => ?_
    split
    · refine yields_bind_of (yields_pass body ctx.loopIndex) fun signal hsignal => ?_
      split
      · exact yields_pure (hsignal _ rfl)
      · exact yields_bind fun current => yields_bind fun _ => ih
    · exact yields_pure trivial

theorem yields_alwaysLoop (body : Command) (budget : Nat) :
    (ctx.alwaysLoop settle body budget).Yields (Outcome.OfBody settle ctx body) := by
  induction budget with
  | zero => exact yields_exhausted
  | succ budget ih =>
    refine yields_bind_of (yields_pass body ctx.loopIndex) fun signal hsignal => ?_
    split
    · exact yields_pure (hsignal _ rfl)
    · exact ih

/-! ### Jumps, branches and commands of a host -/

theorem yields_setHere : (ctx.setHere program settle).Yields (· = .unit) := by
  refine yields_bind fun name => ?_
  split
  · refine yields_bind fun cell => yields_bind fun memory => ?_
    dsimp only
    split
    · exact yields_bind fun _ => yields_bind fun _ => yields_pure rfl
    · exact yields_bind fun _ => yields_pure rfl
  · exact yields_bind fun v => yields_bind fun _ => yields_pure rfl

theorem yields_goTo : (ctx.goTo program).Yields (Outcome.Suits .goTo ctx.command ctx.scope) :=
  yields_bind fun _ => yields_pure (.inl ⟨rfl, rfl⟩)

theorem yields_call :
    (ctx.call program settle).Yields (Outcome.Suits .call ctx.command scope) := by
  refine yields_bind fun line => yields_bind fun scope => ?_
  split
  · exact yields_bind fun _ => yields_pure (.inr (.inl ⟨rfl, rfl⟩))
  · exact yields_pure (.inr (.inl ⟨rfl, rfl⟩))

theorem yields_branch (negated : Bool) :
    (ctx.branch program settle negated).Yields (Outcome.Suits behaviour ctx.command scope) := by
  refine yields_bind fun condition => ?_
  split
  · next c hc => exact yields_pure (Command.mem_inner_of_command? hc)
  · exact yields_pure trivial

theorem yields_act (signature : Signature) (action : HostAction) :
    (ctx.act program settle signature action).Yields
      (Outcome.Suits (.host action) ctx.command scope) := by
  refine yields_bind fun reply => yields_pure ?_
  cases reply with
  | value | signal => trivial
  | tailCall index =>
    simp only [outcome]
    cases hc : (ctx.param index).command? with
    | some c => exact Command.mem_inner_of_command? hc
    | none => trivial
  | jump => exact .inr (.inr rfl)

end Context

open Context

variable {program : Program} {settle : Settle} {budget : Nat} {ctx : Context} {c : Command}

/-- **Every behaviour has one of its outcomes.** -/
theorem perform_suits (type : CommandType) :
    (perform program settle budget ctx type).Yields
      (Outcome.Suits type.behaviour ctx.command ctx.scope) := by
  obtain ⟨signature, behaviour⟩ := type
  cases behaviour with
  | endAll | goBack => exact yields_pure trivial
  | returnValue | returnAll => exact yields_bind fun _ => yields_pure trivial
  | goTo => exact yields_goTo
  | call => exact yields_call
  | branch negated => exact yields_branch negated
  | strayElse | forEach => exact yields_fail _
  | repeatWhile negated =>
    exact yields_bind fun body => (yields_whileLoop _ _ _).mono Outcome.OfBody.suits
  | repeatFor =>
    exact yields_bind fun body => yields_bind fun target =>
      (yields_forLoop _ _ _).mono Outcome.OfBody.suits
  | counted descending =>
    refine yields_bind fun count => yields_bind fun body => ?_
    split
    · exact (yields_countDown _ _).mono Outcome.OfBody.suits
    · exact (yields_countUp _ _ _).mono Outcome.OfBody.suits
  | countdownWith =>
    exact yields_bind fun cell => yields_bind fun body =>
      (yields_countdownLoop _ _ _).mono Outcome.OfBody.suits
  | countUpWith =>
    exact yields_bind fun cell => yields_bind fun limit => yields_bind fun body =>
      (yields_countUpLoop _ _ _ _).mono Outcome.OfBody.suits
  | always => exact yields_bind fun body => (yields_alwaysLoop _ _).mono Outcome.OfBody.suits
  | set tier =>
    exact yields_bind fun name => yields_bind fun v => yields_bind fun _ => yields_pure trivial
  | setHere =>
    refine yields_setHere.mono ?_
    rintro _ rfl
    trivial
  | unset tier => exact yields_bind fun name => yields_bind fun _ => yields_pure trivial
  | setFor tier =>
    exact yields_bind fun ids => yields_bind fun name => yields_bind fun v => yields_bind fun _ =>
      yields_pure trivial
  | unsetFor tier =>
    exact yields_bind fun ids => yields_bind fun name => yields_bind fun _ => yields_pure trivial
  | host action => exact yields_act signature action

/-- **A command is replaced by none but its inner commands.** -/
theorem execute_fits :
    (execute program settle budget ctx c).Yields (Outcome.Fits c) := by
  unfold execute
  split
  · exact (perform_suits _).mono Outcome.Suits.fits
  · exact yields_fail _

section Language

variable (hlanguage : ∀ type, program.registry.get? c.name = some type →
  type.behaviour.isHost = false)
include hlanguage

/-- **A `GO-TO` of the language keeps the scope.** -/
theorem execute_keepsScope :
    (execute program settle budget ctx c).Yields (Outcome.KeepsScope ctx.scope) := by
  unfold execute
  split
  · next type htype =>
    exact (perform_suits type).mono (Outcome.Suits.keepsScope (hlanguage type htype))
  · exact yields_fail _

/-- **A call of the language is asked for by a `DO`.** -/
theorem execute_call {s t : State} {j : Jump}
    (h : execute program settle budget ctx c s = .ok (.jump j) t) (hkind : j.kind = .call) :
    (ctx.child c).call program settle s = .ok (.jump j) t := by
  unfold execute at h
  cases htype : program.registry.get? c.name with
  | none =>
    rw [htype] at h
    cases h
  | some type =>
    rw [htype] at h
    have hsuits := perform_suits type _ ⟨s, t, h⟩
    have hnone := hlanguage type htype
    obtain ⟨signature, behaviour⟩ := type
    rcases hsuits with ⟨hgoTo, -⟩ | ⟨-, hcall⟩ | hhost
    · rw [hkind] at hgoTo
      cases hgoTo
    · cases hcall
      exact h
    · rw [hnone] at hhost
      cases hhost

end Language

theorem JumpKind.outcome_isFinal (kind : JumpKind) (how : Exit) : (kind.outcome how).IsFinal := by
  cases kind <;> cases how <;> trivial

/-- The frame of a jump leaves nothing to be run. -/
theorem follow_isFinal (j : Jump) :
    (follow program settle ctx j).Yields Outcome.IsFinal :=
  yields_bind fun how => yields_pure (j.kind.outcome_isFinal how)

theorem ultimate_value (left : Nat) (v : Value) :
    ultimate program settle budget ctx left (.value v) = pure (.value v) := by
  cases left <;> rfl

theorem ultimate_signal (left : Nat) (signal : Signal) :
    ultimate program settle budget ctx left (.signal signal) = pure (.signal signal) := by
  cases left <;> rfl

/-- The bindings of a call, as they are written. -/
def Command.arguments (c : Command) : List (String × Param) :=
  match c.param 1 with
  | .bindings list => list
  | _ => []

/-- **What a call does**: it finds its line, makes a scope and binds its arguments there. -/
theorem call_eq_ok {s t : State} {outcome : Outcome}
    (h : ctx.call program settle s = .ok outcome t) :
    ∃ line r, ctx.labelTarget program 0 s = .ok line r ∧
      ctx.bindArguments program settle r.memory.scopes.size ctx.command.arguments
        { r with memory := r.memory.newScope.2 } = .ok () t ∧
      outcome = .jump ⟨.call, line, r.memory.scopes.size⟩ := by
  obtain ⟨line, r, hline, h⟩ := bind_eq_ok h
  obtain ⟨scope, r', hscope, h⟩ := bind_eq_ok h
  cases hscope
  refine ⟨line, r, hline, ?_⟩
  unfold Command.arguments
  rw [show ctx.command.param 1 = ctx.param 1 from rfl]
  cases hp : ctx.param 1 with
  | bindings list =>
    simp only [hp] at h
    obtain ⟨u, t', hbind, h⟩ := bind_eq_ok h
    cases h
    exact ⟨hbind, rfl⟩
  | _ =>
    simp only [hp] at h
    cases h
    exact ⟨rfl, rfl⟩

end StageScript
