import StageScript.Proofs.Engine.Choice
import StageScript.Proofs.Syntax.Column

/-!
# Columns do not matter

The column of an open operator is used for nothing but to remember its meaning. So from a state in
which no meaning is remembered and none will be, a command and its unplaced form do the same
(`settle_blind`), and a param has the value of every other param with the same unplaced form
(`evaluate_of_unplaced_eq`).

The two runs are compared step by step. `Mapped` says that one run does what another does, but for
a map of the results: a command that hands back a command to be run in its place hands back the
unplaced form of it. Where the results are the same (`Same`), this is a relation that the engine
respects (`Same.congruence`).
-/

namespace StageScript

/-! ### Runs that do the same -/

theorem afresh_of_choices {s : State} (h : s.choices = .afresh) : s.afresh = s := by
  unfold State.afresh
  rw [← h]

/-- **The first run does what the second does**, up to a map of the results, from every state in
which operators are chosen when they are evaluated. -/
def Mapped {α β : Type} (f : α → β) (m : Run β) (m' : Run α) : Prop :=
  ∀ s : State, s.choices = .afresh → (m'.after s).choices = .afresh ∧
    ((∃ a t, m' s = .ok a t ∧ m s = .ok (f a) t) ∨ ∃ e t, m' s = .error e t ∧ m s = .error e t)

/-- Both runs do the same, from every state in which operators are chosen when they are
evaluated. -/
def Same (α : Type) (m m' : Run α) : Prop := Mapped id m m'

namespace Mapped

variable {α β γ δ : Type} {f : α → β} {g : γ → δ} {m : Run β} {m' : Run α}

theorem ret {a : α} {b : β} (h : b = f a) : Mapped f (pure b) (pure a) := by
  intro s hs
  refine ⟨hs, .inl ⟨a, s, rfl, ?_⟩⟩
  rw [h]
  rfl

theorem throw (e : Stop) : Mapped f (throw e) (throw e) :=
  fun s hs => ⟨hs, .inr ⟨e, s, rfl, rfl⟩⟩

theorem bind {k : β → Run δ} {k' : α → Run γ} (hm : Mapped f m m')
    (hk : ∀ a, m.Returns (f a) → Mapped g (k (f a)) (k' a)) : Mapped g (m >>= k) (m' >>= k') := by
  intro s hs
  obtain ⟨hafter, ⟨a, t, hm', hm⟩ | ⟨e, t, hm', hm⟩⟩ := hm s hs
  · rw [Run.after_of_ok hm'] at hafter
    have h := hk a ⟨s, t, hm⟩ t hafter
    unfold Run.after at h ⊢
    rw [Run.bind_of_ok hm, Run.bind_of_ok hm']
    exact h
  · rw [Run.after_of_error hm'] at hafter
    rw [Run.after_of_error (Run.bind_of_error hm')]
    exact ⟨hafter, .inr ⟨e, t, Run.bind_of_error hm', Run.bind_of_error hm⟩⟩

end Mapped

namespace Same

variable {α β γ : Type} {m m' : Run α}

/-- The run that both are compared with stays in such states. -/
theorem right (h : Same α m m') : Same α m' m' := by
  intro s hs
  obtain ⟨hafter, ⟨a, t, hm', -⟩ | ⟨e, t, hm', -⟩⟩ := h s hs
  · exact ⟨hafter, .inl ⟨a, t, hm', hm'⟩⟩
  · exact ⟨hafter, .inr ⟨e, t, hm', hm'⟩⟩

theorem eq_of_afresh (h : Same α m m') {s : State} (hs : s.choices = .afresh) : m s = m' s := by
  obtain ⟨-, ⟨a, t, hm', hm⟩ | ⟨e, t, hm', hm⟩⟩ := h s hs
  · exact hm.trans hm'.symm
  · exact hm.trans hm'.symm

/-- A run that stays in such states. -/
theorem of_after (h : ∀ s, (m.after s).choices = s.choices) : Same α m m := by
  intro s hs
  refine ⟨(h s).trans hs, ?_⟩
  cases hm : m s with
  | ok a t => exact .inl ⟨a, t, rfl, rfl⟩
  | error e t => exact .inr ⟨e, t, rfl, rfl⟩

theorem andThen {f : β → γ} {k : α → Run γ} {k' : α → Run β} (hm : Same α m m')
    (hk : ∀ a, Mapped f (k a) (k' a)) : Mapped f (m >>= k) (m' >>= k') :=
  Mapped.bind hm fun a _ => hk a

theorem atLine (line : Nat) (hm : Same α m m') : Same α (m.atLine line) (m'.atLine line) := by
  intro s hs
  rw [Run.after_atLine]
  obtain ⟨hafter, ⟨a, t, hm', hm⟩ | ⟨e, t, hm', hm⟩⟩ := hm s hs
  · exact ⟨hafter, .inl ⟨a, t, Run.atLine_of_ok line hm', Run.atLine_of_ok line hm⟩⟩
  · exact ⟨hafter, .inr ⟨_, t, Run.atLine_of_error line hm', Run.atLine_of_error line hm⟩⟩

theorem attempt (hm : Same α m m') : Same (Except Fault α) m.attempt m'.attempt := by
  intro s hs
  rw [Run.after_attempt]
  obtain ⟨hafter, ⟨a, t, hm', hm⟩ | ⟨e, t, hm', hm⟩⟩ := hm s hs
  · exact ⟨hafter, .inl ⟨.ok a, t, Run.attempt_of_ok hm', Run.attempt_of_ok hm⟩⟩
  · cases e with
    | fault f =>
      exact ⟨hafter, .inl ⟨.error f, t, Run.attempt_of_fault hm', Run.attempt_of_fault hm⟩⟩
    | outOfFuel =>
      exact ⟨hafter, .inr ⟨_, t, Run.attempt_of_outOfFuel hm', Run.attempt_of_outOfFuel hm⟩⟩

theorem ofExcept (line : Nat) (e : Except Cause α) :
    Same α (Run.ofExcept line e) (Run.ofExcept line e) := by
  cases e with
  | ok a => exact of_after fun _ => rfl
  | error cause => exact of_after fun _ => rfl

/-- **The place of an operator does not matter** where its meaning is chosen each time. -/
theorem operate (ctx : Context) {place place' : Occurrence}
    (hplace : place'.operator = place.operator) (left : Value) {right right' : Run Value}
    (h : Same Value right right') :
    Same Value (ctx.operate place' left right) (ctx.operate place left right') := by
  have hchoice : Same Choice (ctx.choice place' left) (ctx.choice place left) := by
    intro s hs
    obtain ⟨hafter, hresult⟩ := ofExcept ctx.line (Operator.choose place.operator left) s hs
    have h := choice_afresh ctx place left s
    have h' := choice_afresh ctx place' left s
    rw [afresh_of_choices hs] at h h'
    unfold Run.after at hafter ⊢
    rw [h, h', hplace]
    exact ⟨hafter, hresult⟩
  exact hchoice.andThen fun choice => h.andThen fun y => ofExcept _ _

theorem quiet : Quiet Same where
  pure _ := of_after fun _ => rfl
  fail _ _ := of_after fun _ => rfl
  bind := Mapped.bind
  memory := of_after fun _ => rfl
  lookUp _ _ := of_after fun _ => rfl
  operate ctx _ := operate ctx rfl

theorem write (cell : CellId) (v : Value) : Same Unit (Run.write cell v) (Run.write cell v) :=
  of_after fun _ => rfl

theorem unassign (tier : Tier) (scope : ScopeId) (id name : String) :
    Same Unit (Run.unassign tier scope id name) (Run.unassign tier scope id name) :=
  of_after fun _ => by cases tier <;> rfl

/-- **Doing the same is respected by the engine.** -/
theorem congruence (registry : Registry) : Congruence registry Same where
  toQuiet := quiet
  raise _ := of_after fun _ => rfl
  hosts := .inr attempt
  note _ := of_after fun _ => rfl
  log := of_after fun _ => rfl
  stores := of_after fun _ => rfl
  atLine := atLine
  write := write
  bindName _ _ _ := of_after fun _ => rfl
  setIn _ _ _ := of_after fun _ => rfl
  newScope := of_after fun _ => rfl
  assign tier scope id name v := of_after fun s => by
    cases h : s.assign registry tier scope id name v with
    | ok t => rw [Run.after_of_ok (Run.assign_of_ok h), State.assign_choices h]
    | error f => rw [Run.after_of_error (Run.assign_of_error h)]
  unassign := unassign

end Same

/-! ### The command a param stands in -/

section Child

variable {program : Program} {ctx : Context} {d : Command}

theorem ultimate_child (settle : Settle) (budget left : Nat) (outcome : Outcome) :
    ultimate program settle budget (ctx.child d) left outcome =
      ultimate program settle budget ctx left outcome := by
  induction left generalizing outcome with
  | zero => cases outcome <;> rfl
  | succ left ih =>
    cases outcome with
    | value v | signal s => rfl
    | tailCall c | jump j => exact Run.bind_congr fun o _ => ih o

/-- How a command is settled does not depend on the command it stands in. -/
theorem settle_child (fuel : Nat) :
    settle program fuel (ctx.child d) = settle program fuel ctx := by
  funext c
  cases fuel with
  | zero => rfl
  | succ fuel => exact Run.bind_congr fun o _ => ultimate_child _ _ _ o

mutual

/-- The value of a param does not depend on the command it stands in. -/
theorem evaluate_child {settle : Settle} (hs : settle (ctx.child d) = settle ctx) : ∀ p : Param,
    evaluate program settle (ctx.child d) p = evaluate program settle ctx p
  | .value _ | .absent => by simp only [evaluate]
  | .variable _ | .loopIndex | .loopObject | .bindings _ => by
    simp only [evaluate]
    rfl
  | .command c => by
    simp only [evaluate, hs]
    rfl
  | .collection element bare all items => by
    simp only [evaluate, evaluateItems_child hs element items]
    rfl
  | .math operator left right => by
    simp only [evaluate, evaluate_child hs left, evaluateOption_child hs right]
    rfl
  | .concat left right | .union left right | .difference left right
  | .ambiguous place left right => by
    simp only [evaluate, evaluate_child hs left, evaluate_child hs right]
    rfl
  | .condition comparator left right => by
    simp only [evaluate, evaluate_child hs left, evaluateOption_child hs right]
    rfl

theorem evaluateOption_child {settle : Settle} (hs : settle (ctx.child d) = settle ctx) :
    ∀ p : Option Param,
      evaluateOption program settle (ctx.child d) p = evaluateOption program settle ctx p
  | none => rfl
  | some p => by
    simp only [evaluateOption]
    exact evaluate_child hs p

theorem evaluateItems_child {settle : Settle} (hs : settle (ctx.child d) = settle ctx)
    (element : ElementKind) : ∀ items : List Param,
      evaluateItems program settle (ctx.child d) element items =
        evaluateItems program settle ctx element items
  | [] => rfl
  | item :: items => by
    simp only [evaluateItems, evaluate_child hs item, evaluateItems_child hs element items]
    rfl

end

end Child

/-! ### Evaluation -/

namespace Same

variable {program : Program} {settle : Settle} {ctx : Context}

mutual

/-- A param and its unplaced form, if this is so for the commands in it. -/
theorem evaluate (hs : ∀ c : Command, Same Settled (settle ctx c.unplaced) (settle ctx c)) :
    ∀ p : Param,
      Same Value (evaluate program settle ctx p.unplaced) (evaluate program settle ctx p)
  | .value v | .variable name | .loopIndex | .loopObject | .absent => by
    simp only [Param.unplaced]
    exact quiet.evaluate _ fun c _ => (hs c).right
  | .command c => by
    simp only [Param.unplaced, StageScript.evaluate, Command.name_unplaced]
    refine (hs c).andThen fun settled => ?_
    cases settled with
    | value v => exact quiet.pure v
    | signal s => exact quiet.contextFail _
  | .bindings _ => by
    simp only [Param.unplaced, StageScript.evaluate]
    exact quiet.contextFail _
  | .collection element bare all items => by
    simp only [Param.unplaced, StageScript.evaluate]
    split
    · exact quiet.allObjects element
    · refine (evaluateItems hs element items).andThen fun values => ?_
      split
      · exact quiet.pure _
      · exact quiet.typed _ _
  | .math operator left right => by
    simp only [Param.unplaced, StageScript.evaluate]
    exact (evaluate hs left).andThen fun x => (evaluateOption hs right).andThen fun y =>
      ofExcept _ _
  | .concat left right | .union left right | .difference left right => by
    simp only [Param.unplaced, StageScript.evaluate]
    exact (evaluate hs left).andThen fun x => (evaluate hs right).andThen fun y => ofExcept _ _
  | .condition comparator left right => by
    have hl := evaluate hs left
    have hr := evaluateOption hs right
    cases comparator with
    | identity | not =>
      simp only [Param.unplaced, StageScript.evaluate]
      exact hl.andThen fun x => quiet.truthValue false x _
    | and =>
      simp only [Param.unplaced, StageScript.evaluate]
      refine hl.andThen fun x => (quiet.truth true x).andThen fun b => ?_
      split
      · exact hr.andThen fun y => quiet.truthValue true y _
      · exact quiet.pure _
    | or =>
      simp only [Param.unplaced, StageScript.evaluate]
      refine hl.andThen fun x => (quiet.truth true x).andThen fun b => ?_
      split
      · exact quiet.pure _
      · exact hr.andThen fun y => quiet.truthValue true y _
    | equals =>
      have hcell : ctx.sameCell left.unplaced ((unplacedOption right).getD .absent) =
          ctx.sameCell left (right.getD .absent) := by
        unfold Context.sameCell
        cases right <;> simp only [unplacedOption, Option.getD, Param.variableName?_unplaced]
      simp only [Param.unplaced, StageScript.evaluate, hcell]
      refine (quiet.sameCell left _).andThen fun b => ?_
      split
      · exact quiet.pure _
      · exact hl.andThen fun x => hr.andThen fun y => quiet.pure _
    | greaterThan | lessThan =>
      simp only [Param.unplaced, StageScript.evaluate]
      exact hl.andThen fun x => hr.andThen fun y => (ofExcept _ _).andThen fun b => quiet.pure _
  | .ambiguous place left right => by
    have hplace : place.unplaced.operator = place.operator := rfl
    simp only [Param.unplaced, StageScript.evaluate]
    exact (evaluate hs left).andThen fun x => operate ctx hplace x (evaluate hs right)

theorem evaluateOption
    (hs : ∀ c : Command, Same Settled (settle ctx c.unplaced) (settle ctx c)) :
    ∀ p : Option Param, Same Value (evaluateOption program settle ctx (unplacedOption p))
      (evaluateOption program settle ctx p)
  | none => quiet.pure _
  | some p => by
    simp only [unplacedOption, StageScript.evaluateOption]
    exact evaluate hs p

theorem evaluateItems
    (hs : ∀ c : Command, Same Settled (settle ctx c.unplaced) (settle ctx c))
    (element : ElementKind) : ∀ items : List Param,
      Same (List Value) (evaluateItems program settle ctx element (unplacedItems items))
        (evaluateItems program settle ctx element items)
  | [] => quiet.pure _
  | item :: items => by
    have hi := evaluate hs item
    have hr := evaluateItems hs element items
    have hbare : ctx.bareObject? element item.unplaced = ctx.bareObject? element item := by
      unfold Context.bareObject?
      rw [Param.variableName?_unplaced]
    simp only [unplacedItems, StageScript.evaluateItems, hbare]
    refine (quiet.bareObject? element item).andThen fun key => ?_
    split
    · exact (quiet.directoryObject element _).andThen fun v => hr.andThen fun vs => quiet.pure _
    · exact hi.andThen fun v => (quiet.itemValue element v).andThen fun v =>
        hr.andThen fun vs => quiet.pure _

end

end Same

/-! ### Slots -/

/-- **A way to settle commands that is blind** to the command around and to columns. -/
structure Blind (settle : Settle) : Prop where
  child : ∀ (ctx : Context) (d : Command), settle (ctx.child d) = settle ctx
  unplaced : ∀ (ctx : Context) (c : Command), Same Settled (settle ctx c.unplaced) (settle ctx c)

namespace Context

variable (ctx : Context) (c : Command) (index : Nat)

/-! What a command reads without evaluating anything. -/

@[simp] theorem param_child_unplaced :
    (ctx.child c.unplaced).param index = ((ctx.child c).param index).unplaced :=
  Command.param_unplaced c index

theorem mismatch_unplaced {α : Type} (expected : String) (found : Value) :
    ((ctx.child c.unplaced).mismatch index expected found : Run α) =
      (ctx.child c).mismatch index expected found := by
  simp only [mismatch, child, Command.name_unplaced]
  rfl

theorem misshapen_unplaced {α : Type} (expected : String) :
    ((ctx.child c.unplaced).misshapen index expected : Run α) =
      (ctx.child c).misshapen index expected := by
  simp only [misshapen, child, Command.name_unplaced]
  rfl

theorem name_unplaced : (ctx.child c.unplaced).name index = (ctx.child c).name index := by
  simp only [name, param_child_unplaced, Param.literalText?_unplaced, misshapen_unplaced]

theorem labelTarget_unplaced (program : Program) :
    (ctx.child c.unplaced).labelTarget program index = (ctx.child c).labelTarget program index := by
  simp only [labelTarget, name_unplaced]
  rfl

theorem lineParam_unplaced :
    (ctx.child c.unplaced).lineParam index = (ctx.child c).lineParam index := by
  simp only [lineParam, param_child_unplaced]
  cases (ctx.child c).param index <;> simp only [Param.unplaced] <;> rfl

theorem stepTarget_unplaced : (ctx.child c.unplaced).stepTarget = (ctx.child c).stepTarget := by
  simp only [stepTarget, param_child_unplaced]
  cases (ctx.child c).param 1 <;>
    simp only [Param.unplaced, Option.bind, Param.variableName?_unplaced] <;> rfl

theorem counter_unplaced (cell : CellId) :
    (ctx.child c.unplaced).counter cell = (ctx.child c).counter cell := by
  simp only [counter, child, Command.name_unplaced]
  rfl

theorem targetId_unplaced (v : Value) :
    (ctx.child c.unplaced).targetId v = (ctx.child c).targetId v := by
  unfold targetId
  split
  · rfl
  · simp only [child, Command.name_unplaced]
    rfl

end Context

namespace Blind

variable {program : Program} {settle : Settle} (h : Blind settle) (ctx : Context) (c : Command)
  (index : Nat)
include h

open Same (quiet)

theorem value : Same Value ((ctx.child c.unplaced).value program settle index)
    ((ctx.child c).value program settle index) := by
  unfold Context.value
  rw [evaluate_child (h.child ctx _), evaluate_child (h.child ctx _), Context.param_child_unplaced]
  exact Same.evaluate (h.unplaced ctx) _

theorem number : Same Number ((ctx.child c.unplaced).number program settle index)
    ((ctx.child c).number program settle index) := by
  simp only [Context.number, Context.mismatch_unplaced]
  refine (h.value ctx c index).andThen fun v => ?_
  split
  · exact quiet.pure _
  · exact quiet.contextFail _

theorem text : Same String ((ctx.child c.unplaced).text program settle index)
    ((ctx.child c).text program settle index) := by
  simp only [Context.text, Context.mismatch_unplaced]
  refine (h.value ctx c index).andThen fun v => ?_
  split
  · exact quiet.pure _
  · exact quiet.contextFail _

theorem boolean : Same Bool ((ctx.child c.unplaced).boolean program settle index)
    ((ctx.child c).boolean program settle index) := by
  simp only [Context.boolean, Context.mismatch_unplaced]
  refine (h.value ctx c index).andThen fun v => ?_
  split
  · exact quiet.pure _
  · exact quiet.contextFail _

theorem collection : Same Collection ((ctx.child c.unplaced).collection program settle index)
    ((ctx.child c).collection program settle index) := by
  simp only [Context.collection, Context.mismatch_unplaced]
  refine (h.value ctx c index).andThen fun v => ?_
  split
  · exact quiet.pure _
  · exact quiet.contextFail _

omit h in
theorem body : Mapped Command.unplaced ((ctx.child c.unplaced).body index)
    ((ctx.child c).body index) := by
  simp only [Context.body, Context.param_child_unplaced, Param.command?_unplaced,
    Context.misshapen_unplaced]
  cases ((ctx.child c).param index).command? with
  | some b => exact .ret rfl
  | none => exact .throw _

omit h in
theorem cellSlot : Same CellId ((ctx.child c.unplaced).cellSlot index)
    ((ctx.child c).cellSlot index) := by
  simp only [Context.cellSlot, Context.param_child_unplaced, Param.variableName?_unplaced,
    Context.misshapen_unplaced]
  split
  · exact quiet.resolve _
  · exact quiet.contextFail _

theorem runCommand : Same Settled ((ctx.child c.unplaced).runCommand settle index)
    ((ctx.child c).runCommand settle index) := by
  simp only [Context.runCommand, Context.param_child_unplaced, Context.misshapen_unplaced, h.child]
  cases (ctx.child c).param index with
  | command b =>
    simp only [Param.unplaced]
    exact h.unplaced ctx b
  | absent => exact quiet.pure _
  | _ => exact quiet.contextFail _

theorem pass (b : Command) : Same (Option Signal)
    (Context.pass settle (ctx.child c.unplaced) b.unplaced)
    (Context.pass settle (ctx.child c) b) := by
  simp only [Context.pass, h.child]
  refine (h.unplaced ctx b).andThen fun settled => ?_
  cases settled with
  | value v => exact quiet.pure _
  | signal s => exact quiet.pure _

theorem targetIds : Same (List String) ((ctx.child c.unplaced).targetIds program settle)
    ((ctx.child c).targetIds program settle) := by
  simp only [Context.targetIds, funext (Context.targetId_unplaced ctx c)]
  refine (h.collection ctx c 0).andThen fun targets => quiet.mapM (fun v => ?_) _
  unfold Context.targetId
  split
  · exact quiet.pure _
  · exact quiet.contextFail _

end Blind

/-! ### Commands -/

/-- The command that is to be run in the place of another, in its unplaced form. -/
def Outcome.unplaced : Outcome → Outcome
  | .tailCall c => .tailCall c.unplaced
  | o => o

/-- The outcome of a command does not depend on its columns. -/
abbrev Columnless (m m' : Run Outcome) : Prop := Mapped Outcome.unplaced m m'

namespace Blind

variable {program : Program} {settle : Settle} (h : Blind settle) (ctx : Context) (c : Command)
include h

open Same (quiet congruence)

/-! #### Setting and removing variables -/

theorem setVariable (tier : Tier) :
    Columnless ((ctx.child c.unplaced).setVariable program settle tier)
      ((ctx.child c).setVariable program settle tier) := by
  simp only [Context.setVariable, Context.name_unplaced]
  have hassign := (congruence program.registry).targets (ctx.child c) tier
  exact (quiet.slotName 0).andThen fun name => (h.value ctx c 1).andThen fun v =>
    ((hassign name _).1 v).andThen fun _ => .ret rfl

omit h in
theorem shareCell (name source : String) :
    Columnless ((ctx.child c).shareCell program name source)
      ((ctx.child c).shareCell program name source) := by
  have hc := congruence program.registry
  refine (quiet.resolve source).andThen fun cell => quiet.memory.andThen fun memory => ?_
  dsimp only
  split
  · exact ((hc.targets (ctx.child c) .temp name _).1 _).andThen fun _ =>
      (hc.bindName _ _ _).andThen fun _ => .ret rfl
  · exact (hc.bindName _ _ _).andThen fun _ => .ret rfl

theorem setHere : Columnless ((ctx.child c.unplaced).setHere program settle)
    ((ctx.child c).setHere program settle) := by
  simp only [Context.setHere, Context.name_unplaced, Context.param_child_unplaced,
    Param.variableName?_unplaced]
  have hassign := (congruence program.registry).targets (ctx.child c) .temp
  refine (quiet.slotName 0).andThen fun name => ?_
  split
  · exact shareCell ctx c name _
  · exact (h.value ctx c 1).andThen fun v => ((hassign name _).1 v).andThen fun _ => .ret rfl

omit h in
theorem unsetVariable (tier : Tier) :
    Columnless ((ctx.child c.unplaced).unsetVariable tier)
      ((ctx.child c).unsetVariable tier) := by
  simp only [Context.unsetVariable, Context.name_unplaced]
  exact (quiet.slotName 0).andThen fun name =>
    (Same.unassign tier _ _ name).andThen fun _ => .ret rfl

theorem setFor (tier : Tier) :
    Columnless ((ctx.child c.unplaced).setFor program settle tier)
      ((ctx.child c).setFor program settle tier) := by
  simp only [Context.setFor, Context.name_unplaced]
  have hassign := (congruence program.registry).targets (ctx.child c) tier
  exact (h.targetIds ctx c).andThen fun ids => (quiet.slotName 1).andThen fun name =>
    (h.value ctx c 2).andThen fun v =>
      (quiet.forM (fun id => (hassign name id).1 v) ids).andThen fun _ => .ret rfl

theorem unsetFor (tier : Tier) :
    Columnless ((ctx.child c.unplaced).unsetFor program settle tier)
      ((ctx.child c).unsetFor program settle tier) := by
  simp only [Context.unsetFor, Context.name_unplaced]
  have hassign := (congruence program.registry).targets (ctx.child c) tier
  exact (h.targetIds ctx c).andThen fun ids => (quiet.slotName 1).andThen fun name =>
    (quiet.forM (fun id => (hassign name id).2) ids).andThen fun _ => .ret rfl

/-! #### Steering -/

omit h in
theorem goTo : Columnless ((ctx.child c.unplaced).goTo program) ((ctx.child c).goTo program) := by
  simp only [Context.goTo, Context.labelTarget_unplaced]
  exact (quiet.labelTarget 0).andThen fun line => .ret rfl

theorem bindArguments (scope : ScopeId) (list : List (String × Param)) :
    Same Unit ((ctx.child c.unplaced).bindArguments program settle scope (unplacedBindings list))
      ((ctx.child c).bindArguments program settle scope list) := by
  have hc := congruence program.registry
  induction list with
  | nil => exact quiet.pure _
  | cons binding list ih =>
    refine Same.andThen ?_ fun _ => ih
    obtain ⟨name, p⟩ := binding
    simp only [unplacedBinding, Context.bindArgument, Param.variableName?_unplaced]
    split
    · exact (quiet.resolve _).andThen fun cell => hc.bindName _ _ _
    · rw [evaluate_child (h.child ctx _), evaluate_child (h.child ctx _)]
      exact (Same.evaluate (h.unplaced ctx) p).andThen fun v => hc.setIn _ _ _

theorem call : Columnless ((ctx.child c.unplaced).call program settle)
    ((ctx.child c).call program settle) := by
  simp only [Context.call, Context.labelTarget_unplaced, Context.param_child_unplaced]
  refine (quiet.labelTarget 0).andThen fun line =>
    (congruence program.registry).newScope.andThen fun scope => ?_
  cases (ctx.child c).param 1 with
  | bindings list =>
    simp only [Param.unplaced]
    exact (h.bindArguments ctx c scope list).andThen fun _ => .ret rfl
  | _ =>
    simp only [Param.unplaced]
    exact .ret rfl

theorem branch (negated : Bool) :
    Columnless ((ctx.child c.unplaced).branch program settle negated)
      ((ctx.child c).branch program settle negated) := by
  simp only [Context.branch, Context.param_child_unplaced, Param.command?_unplaced]
  refine (h.boolean ctx c 0).andThen fun condition => ?_
  cases ((ctx.child c).param (if condition != negated then 1 else 2)).command? with
  | some b => exact .ret rfl
  | none => exact .ret rfl

theorem sendValue (signal : Value → Signal) :
    Columnless ((ctx.child c.unplaced).sendValue program settle signal)
      ((ctx.child c).sendValue program settle signal) :=
  (h.value ctx c 0).andThen fun _ => .ret rfl

/-! #### Repeating -/

theorem whileLoop (negated : Bool) (b : Command) (budget : Nat) :
    Columnless ((ctx.child c.unplaced).whileLoop program settle negated b.unplaced budget)
      ((ctx.child c).whileLoop program settle negated b budget) := by
  induction budget with
  | zero => exact .throw _
  | succ budget ih =>
    refine (h.boolean ctx c 0).andThen fun condition => ?_
    split
    · refine (h.pass ctx c b).andThen fun signal => ?_
      split
      · exact .ret rfl
      · exact ih
    · exact .ret rfl

theorem forLoop (target : String) (b : Command) (budget : Nat) :
    Columnless ((ctx.child c.unplaced).forLoop program settle target b.unplaced budget)
      ((ctx.child c).forLoop program settle target b budget) := by
  induction budget with
  | zero => exact .throw _
  | succ budget ih =>
    refine (h.boolean ctx c 0).andThen fun condition => ?_
    split
    · refine (h.pass ctx c b).andThen fun signal => ?_
      split
      · exact .ret rfl
      · exact (h.value ctx c 1).andThen fun next => (quiet.resolve target).andThen fun cell =>
          (Same.write cell next).andThen fun _ => ih
    · exact .ret rfl

theorem repeatFor (budget : Nat) :
    Columnless ((ctx.child c.unplaced).repeatFor program settle budget)
      ((ctx.child c).repeatFor program settle budget) := by
  simp only [Context.repeatFor, Context.stepTarget_unplaced]
  exact (body ctx c 2).bind fun b _ => quiet.stepTarget.andThen fun target =>
    h.forLoop ctx c target b budget

theorem countDown (b : Command) (count : Nat) :
    Columnless ((ctx.child c.unplaced).countDown settle b.unplaced count)
      ((ctx.child c).countDown settle b count) := by
  induction count with
  | zero => exact .ret rfl
  | succ count ih =>
    refine (h.pass (ctx.withLoopIndex _) c b).andThen fun signal => ?_
    split
    · exact .ret rfl
    · exact ih

theorem countUp (b : Command) (count index : Nat) :
    Columnless ((ctx.child c.unplaced).countUp settle b.unplaced count index)
      ((ctx.child c).countUp settle b count index) := by
  induction count generalizing index with
  | zero => exact .ret rfl
  | succ count ih =>
    refine (h.pass (ctx.withLoopIndex _) c b).andThen fun signal => ?_
    split
    · exact .ret rfl
    · exact ih _

theorem counted (descending : Bool) :
    Columnless ((ctx.child c.unplaced).counted program settle descending)
      ((ctx.child c).counted program settle descending) := by
  refine (h.number ctx c 0).andThen fun count => (body ctx c 1).bind fun b _ => ?_
  split
  · exact h.countDown ctx c b _
  · exact h.countUp ctx c b _ _

theorem countdownLoop (cell : CellId) (b : Command) (budget : Nat) :
    Columnless ((ctx.child c.unplaced).countdownLoop settle cell b.unplaced budget)
      ((ctx.child c).countdownLoop settle cell b budget) := by
  induction budget with
  | zero => exact .throw _
  | succ budget ih =>
    simp only [Context.countdownLoop, Context.counter_unplaced]
    refine (quiet.counter cell).andThen fun current => ?_
    split
    · exact .ret rfl
    · refine (Same.write cell _).andThen fun _ =>
        (h.pass ctx c b).andThen fun signal => ?_
      split
      · exact .ret rfl
      · exact ih

theorem countUpLoop (cell : CellId) (limit : Float) (b : Command) (budget : Nat) :
    Columnless ((ctx.child c.unplaced).countUpLoop settle cell limit b.unplaced budget)
      ((ctx.child c).countUpLoop settle cell limit b budget) := by
  induction budget with
  | zero => exact .throw _
  | succ budget ih =>
    simp only [Context.countUpLoop, Context.counter_unplaced]
    refine (quiet.counter cell).andThen fun current => ?_
    split
    · refine (h.pass ctx c b).andThen fun signal => ?_
      split
      · exact .ret rfl
      · exact (quiet.counter cell).andThen fun current =>
          (Same.write cell _).andThen fun _ => ih
    · exact .ret rfl

theorem alwaysLoop (b : Command) (budget : Nat) :
    Columnless ((ctx.child c.unplaced).alwaysLoop settle b.unplaced budget)
      ((ctx.child c).alwaysLoop settle b budget) := by
  induction budget with
  | zero => exact .throw _
  | succ budget ih =>
    refine (h.pass ctx c b).andThen fun signal => ?_
    split
    · exact .ret rfl
    · exact ih

/-! #### Commands of a host -/

/-- **What a context answers does not depend on columns.** One case for each service. -/
theorem answer (signature : Signature) (service : Service) :
    Same service.Answer ((ctx.child c.unplaced).answer program settle signature service)
      ((ctx.child c).answer program settle signature service) := by
  have hc := congruence program.registry
  cases service with
  | site =>
    simp only [Context.answer, Context.child, Command.unplaced_unplaced]
    exact quiet.pure _
  | directory | lineOf label => exact quiet.pure _
  | evaluate index path =>
    simp only [Context.answer, Context.param_child_unplaced, Param.part_unplaced]
    rw [evaluate_child (h.child ctx _), evaluate_child (h.child ctx _)]
    exact Same.evaluate (h.unplaced ctx) _
  | number index => exact h.number ctx c index
  | text index => exact h.text ctx c index
  | boolean index => exact h.boolean ctx c index
  | collection index => exact h.collection ctx c index
  | name index =>
    simp only [Context.answer, Context.name_unplaced]
    exact quiet.slotName index
  | labelTarget index =>
    simp only [Context.answer, Context.labelTarget_unplaced]
    exact quiet.labelTarget index
  | lineParam index =>
    simp only [Context.answer, Context.lineParam_unplaced]
    exact quiet.pure _
  | cell index => exact cellSlot ctx c index
  | run index => exact h.runCommand ctx c index
  | lookUp name => exact quiet.lookUp (ctx.child c) name
  | assign tier name v id => exact (hc.targets (ctx.child c) tier name id).1 v
  | unassign tier name id => exact (hc.targets (ctx.child c) tier name id).2
  | stores => exact hc.stores
  | read cell => exact quiet.read cell
  | write cell v => exact Same.write cell v
  | newScope => exact hc.newScope
  | contents | cellIn => exact quiet.memory.andThen fun _ => quiet.pure _
  | bind scope name cell => exact hc.bindName scope name cell
  | setIn scope name v => exact hc.setIn scope name v
  | note entry => exact hc.note entry
  | logged => exact hc.log.andThen fun _ => quiet.pure _

theorem carryOut (signature : Signature) {α : Type} (p : HostProgram α) :
    Same α ((ctx.child c.unplaced).carryOut program settle signature p)
      ((ctx.child c).carryOut program settle signature p) := by
  induction p with
  | done a => exact quiet.pure a
  | fail f => exact (congruence program.registry).raise f
  | ask index service next ih =>
    exact (h.answer (ctx.rebound index) c signature service).attempt.andThen ih

theorem act (signature : Signature) (action : HostAction) :
    Columnless ((ctx.child c.unplaced).act program settle signature action)
      ((ctx.child c).act program settle signature action) := by
  refine (h.carryOut ctx c signature action).andThen fun reply => ?_
  cases reply with
  | value | signal | jump => exact .ret rfl
  | tailCall index =>
    simp only [Context.outcome, Context.param_child_unplaced, Param.command?_unplaced]
    cases ((ctx.child c).param index).command? with
    | some b => exact .ret rfl
    | none => exact .ret rfl

/-! #### Executing -/

/-- **What a command does does not depend on its columns.** -/
theorem perform (budget : Nat) (type : CommandType) :
    Columnless (perform program settle budget (ctx.child c.unplaced) type)
      (perform program settle budget (ctx.child c) type) := by
  obtain ⟨signature, behaviour⟩ := type
  cases behaviour with
  | endAll | goBack => exact .ret rfl
  | goTo => exact goTo ctx c
  | call => exact h.call ctx c
  | branch negated => exact h.branch ctx c negated
  | strayElse | forEach => exact .throw _
  | returnValue | returnAll => exact h.sendValue ctx c _
  | repeatWhile negated =>
    exact (body ctx c 1).bind fun b _ => h.whileLoop ctx c negated b budget
  | repeatFor => exact h.repeatFor ctx c budget
  | counted descending => exact h.counted ctx c descending
  | countdownWith =>
    exact (cellSlot ctx c 0).andThen fun cell => (body ctx c 1).bind fun b _ =>
      h.countdownLoop ctx c cell b budget
  | countUpWith =>
    exact (cellSlot ctx c 0).andThen fun cell => (h.number ctx c 1).andThen fun limit =>
      (body ctx c 2).bind fun b _ => h.countUpLoop ctx c cell _ b budget
  | always => exact (body ctx c 0).bind fun b _ => h.alwaysLoop ctx c b budget
  | set tier => exact h.setVariable ctx c tier
  | setHere => exact h.setHere ctx c
  | unset tier => exact unsetVariable ctx c tier
  | setFor tier => exact h.setFor ctx c tier
  | unsetFor tier => exact h.unsetFor ctx c tier
  | host action => exact h.act ctx c signature action

theorem execute (budget : Nat) : Columnless (execute program settle budget ctx c.unplaced)
    (execute program settle budget ctx c) := by
  simp only [StageScript.execute, Command.name_unplaced]
  split
  · exact h.perform ctx c budget _
  · exact .throw _

omit c in
theorem follow (jump : Jump) :
    Columnless (follow program settle ctx jump) (follow program settle ctx jump) := by
  refine (quiet.frameRun (fun _ line d _ => Same.atLine line (h.unplaced _ d).right)
    jump.line).andThen fun how => .ret ?_
  cases jump.kind <;> cases how <;> rfl

omit c in
theorem ultimate (budget left : Nat) (outcome : Outcome) :
    Same Settled (ultimate program settle budget ctx left outcome.unplaced)
      (ultimate program settle budget ctx left outcome) := by
  induction left generalizing outcome with
  | zero =>
    cases outcome with
    | value v | signal s => exact quiet.pure _
    | tailCall c | jump j => exact quiet.contextFail _
  | succ left ih =>
    cases outcome with
    | value v | signal s => exact quiet.pure _
    | tailCall c => exact (h.execute ctx c budget).bind fun o _ => ih o
    | jump j => exact (h.follow ctx j).bind fun o _ => ih o

end Blind

/-- **Columns do not matter.** Settling a command is blind to them. -/
theorem settle_blind (program : Program) (fuel : Nat) : Blind (settle program fuel) := by
  refine ⟨fun ctx d => settle_child fuel, ?_⟩
  induction fuel with
  | zero => exact fun _ _ => Mapped.throw _
  | succ fuel ih =>
    intro ctx c
    have h : Blind (settle program fuel) := ⟨fun ctx d => settle_child fuel, ih⟩
    exact (h.execute ctx c fuel).bind fun o _ => h.ultimate ctx fuel _ o

/-- The value of a param depends on nothing but its unplaced form. -/
theorem evaluate_of_unplaced_eq {program : Program} {fuel : Nat} {ctx : Context} {p p' : Param}
    (h : p'.unplaced = p.unplaced) {s : State} (hs : s.choices = .afresh) :
    evaluate program (settle program fuel) ctx p' s =
      evaluate program (settle program fuel) ctx p s := by
  have hsame : ∀ p : Param, evaluate program (settle program fuel) ctx p.unplaced s =
      evaluate program (settle program fuel) ctx p s := fun p =>
    (Same.evaluate ((settle_blind program fuel).unplaced ctx) p).eq_of_afresh hs
  rw [← hsame, h, hsame]

end StageScript
