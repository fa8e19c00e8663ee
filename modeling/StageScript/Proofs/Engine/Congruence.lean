import StageScript.Proofs.Command.PassOn
import StageScript.Proofs.Syntax.Nesting

/-!
# Relations that evaluation respects

Many facts about the engine compare two ways of running one command: with more fuel, on another
state, or with itself to say what a run may do. Each of them is a relation between runs. It is
`Quiet` if it holds of the steps that only read, and is kept by doing one run after another; a
`Congruence` also holds of all steps that change the memory or the stores. What is shown here once
for every quiet relation: if two ways to settle the commands nested in a param are related, so are
the evaluations of the param (`evaluate`).

In the rule for doing one run after another, only the results the first run can have matter
(`Run.Returns`).
-/

namespace StageScript

/-- A line that is attached leaves the cause as it is. -/
theorem Fault.cause_atLine (f : Fault) (line : Nat) : (f.atLine line).cause = f.cause := by
  unfold Fault.atLine
  split
  · rfl
  · split <;> rfl

theorem Fault.code_atLine (f : Fault) (line : Nat) : (f.atLine line).code = f.code :=
  congrArg Cause.code (f.cause_atLine line)

/-- A reason to stop with a line attached. -/
def Stop.atLine (line : Nat) : Stop → Stop
  | .fault f => .fault (f.atLine line)
  | .outOfFuel => .outOfFuel

namespace Run

variable {α β : Type} {m : Run α} {f : α → Run β} {s s' : State} {a : α} {b : β} {e : Stop}

/-- A result that a run has from some state. -/
def Returns (m : Run α) (a : α) : Prop := ∃ s s', m s = .ok a s'

/-- The state a run leaves, whether it ends with a result or stops early. -/
def after (m : Run α) (s : State) : State :=
  match m s with
  | .ok _ s' => s'
  | .error _ s' => s'

theorem bind_of_ok (h : m s = .ok a s') : (m >>= f) s = f a s' := by
  show EStateM.bind m f s = _
  unfold EStateM.bind
  rw [h]

theorem bind_of_error (h : m s = .error e s') : (m >>= f) s = .error e s' := by
  show EStateM.bind m f s = _
  unfold EStateM.bind
  rw [h]

theorem bind_eq_ok (h : (m >>= f) s = .ok b s') :
    ∃ a t, m s = .ok a t ∧ f a t = .ok b s' := by
  cases hm : m s with
  | ok a t => exact ⟨a, t, rfl, (bind_of_ok hm).symm.trans h⟩
  | error e t => cases (bind_of_error hm).symm.trans h

theorem bind_eq_error (h : (m >>= f) s = .error e s') :
    m s = .error e s' ∨ ∃ a t, m s = .ok a t ∧ f a t = .error e s' := by
  cases hm : m s with
  | ok a t => exact .inr ⟨a, t, rfl, (bind_of_ok hm).symm.trans h⟩
  | error e t =>
    cases (bind_of_error hm).symm.trans h
    exact .inl rfl

/-- Two continuations that agree on the results a run has. -/
theorem bind_congr {f' : α → Run β} (h : ∀ a, m.Returns a → f a = f' a) : m >>= f = m >>= f' := by
  funext s
  cases hm : m s with
  | ok a t => rw [bind_of_ok hm, bind_of_ok hm, h a ⟨s, t, hm⟩]
  | error e t => rw [bind_of_error hm, bind_of_error hm]

theorem after_of_ok (h : m s = .ok a s') : m.after s = s' := by
  unfold after
  rw [h]

theorem after_of_error (h : m s = .error e s') : m.after s = s' := by
  unfold after
  rw [h]

theorem after_bind_of_ok (h : m s = .ok a s') : (m >>= f).after s = (f a).after s' := by
  unfold after
  rw [bind_of_ok h]

theorem get_eq (s : State) : (get : Run State) s = .ok s s := rfl

section Assign

variable {registry : Registry} {tier : Tier} {scope : ScopeId} {id name : String} {v : Value}

theorem assign_of_ok (h : s.assign registry tier scope id name v = .ok s') :
    Run.assign registry tier scope id name v s = .ok () s' := by
  unfold Run.assign
  rw [bind_of_ok (get_eq s), h]
  rfl

theorem assign_of_error {f : Fault} (h : s.assign registry tier scope id name v = .error f) :
    Run.assign registry tier scope id name v s = .error (.fault f) s := by
  unfold Run.assign
  rw [bind_of_ok (get_eq s), h]
  rfl

theorem assign_eq_ok (h : Run.assign registry tier scope id name v s = .ok () s') :
    s.assign registry tier scope id name v = .ok s' := by
  cases ha : s.assign registry tier scope id name v with
  | ok t =>
    rw [assign_of_ok ha] at h
    cases h
    rfl
  | error f =>
    rw [assign_of_error ha] at h
    cases h

end Assign

theorem atLine_of_ok (line : Nat) (h : m s = .ok a s') : m.atLine line s = .ok a s' := by
  unfold atLine
  rw [h]

theorem atLine_of_error (line : Nat) (h : m s = .error e s') :
    m.atLine line s = .error (e.atLine line) s' := by
  unfold atLine
  rw [h]
  cases e <;> rfl

theorem after_atLine (line : Nat) : (m.atLine line).after s = m.after s := by
  cases h : m s with
  | ok a t => rw [after_of_ok h, after_of_ok (atLine_of_ok line h)]
  | error e t => rw [after_of_error h, after_of_error (atLine_of_error line h)]

theorem after_attempt : m.attempt.after s = m.after s := by
  cases h : m s with
  | ok a t => rw [after_of_ok h, after_of_ok (attempt_of_ok h)]
  | error e t =>
    cases e with
    | fault f => rw [after_of_error h, after_of_ok (attempt_of_fault h)]
    | outOfFuel => rw [after_of_error h, after_of_error (attempt_of_outOfFuel h)]

theorem atLine_eq_ok {line : Nat} (h : m.atLine line s = .ok a s') : m s = .ok a s' := by
  cases hm : m s with
  | ok b t =>
    rw [atLine_of_ok line hm] at h
    exact h
  | error e t =>
    rw [atLine_of_error line hm] at h
    cases h

end Run

section Choosing

variable (ctx : Context) {place : Occurrence} {left : Value} {s : State} {choice : Choice}

theorem choice_of_some (h : s.choice? place = some choice) :
    ctx.choice place left s = .ok choice s := by
  unfold Context.choice
  rw [Run.bind_of_ok (Run.get_eq s), h]
  rfl

theorem choice_of_none (h : s.choice? place = none)
    (hc : Operator.choose place.operator left = .ok choice) :
    ctx.choice place left s = .ok choice (s.choose place choice) := by
  unfold Context.choice
  rw [Run.bind_of_ok (Run.get_eq s), h, hc]
  rfl

theorem choice_of_error (h : s.choice? place = none) {cause : Cause}
    (hc : Operator.choose place.operator left = .error cause) :
    ctx.choice place left s = .error (.fault (.on ctx.line cause)) s := by
  unfold Context.choice
  rw [Run.bind_of_ok (Run.get_eq s), h, hc]
  rfl

end Choosing

/-- A collection refuses an item without a line. -/
theorem typed_eq_error {element : ElementKind} {items : List Value} {f : Fault}
    (h : Collection.typed element items = .error f) :
    ∃ found, f = { cause := .misfit found element } := by
  unfold Collection.typed Collection.extend at h
  split at h <;> cases h
  exact ⟨_, rfl⟩

/-- The right operand is evaluated and an ambiguous operator applied, the left operand being
known. -/
def Context.operate (ctx : Context) (place : Occurrence) (left : Value) (right : Run Value) :
    Run Value := do
  let choice ← ctx.choice place left
  let right ← right
  Run.ofExcept ctx.line (Operator.apply choice left right)

/-- **A relation between runs that evaluation respects.** The faults that are raised have not passed
through a frame yet. -/
structure Quiet (R : (α : Type) → Run α → Run α → Prop) : Prop where
  pure {α : Type} (a : α) : R α (pure a) (pure a)
  fail {α : Type} (f : Fault) (hf : f.trace = []) : R α (Run.fail f) (Run.fail f)
  bind {α β : Type} {m m' : Run α} {f f' : α → Run β} (hm : R α m m')
    (hf : ∀ a, m.Returns a → R β (f a) (f' a)) : R β (m >>= f) (m' >>= f')
  memory : R Memory Run.memory Run.memory
  lookUp (ctx : Context) (name : String) : R _ (ctx.lookUp? name) (ctx.lookUp? name)
  operate (ctx : Context) (place : Occurrence) (left : Value) {right right' : Run Value}
    (h : R Value right right') :
    R Value (ctx.operate place left right) (ctx.operate place left right')

/-- The relation is kept by looking at faults. -/
def Catching (R : (α : Type) → Run α → Run α → Prop) : Prop :=
  ∀ {α : Type} {m m' : Run α}, R α m m' → R (Except Fault α) m.attempt m'.attempt

/-- **A relation between runs that the engine respects**, whatever cells, scopes and stores a
command changes, and whatever a command of a host does. If there are commands that look at faults
and go on, it must be kept by that. -/
structure Congruence (registry : Registry) (R : (α : Type) → Run α → Run α → Prop) : Prop
    extends Quiet R where
  raise {α : Type} (f : Fault) : R α (Run.fail f) (Run.fail f)
  hosts : registry.PassesErrorsOn ∨ Catching R
  note (entry : LogEntry) : R Unit (Run.note entry) (Run.note entry)
  log : R (Array LogEntry) Run.log Run.log
  stores : R (Store × Store) Run.stores Run.stores
  atLine {α : Type} {m m' : Run α} (line : Nat) (hm : R α m m') :
    R α (m.atLine line) (m'.atLine line)
  write (cell : CellId) (v : Value) : R Unit (Run.write cell v) (Run.write cell v)
  bindName (scope : ScopeId) (name : String) (cell : CellId) :
    R Unit (Run.bind scope name cell) (Run.bind scope name cell)
  setIn (scope : ScopeId) (name : String) (v : Value) :
    R Unit (Run.setIn scope name v) (Run.setIn scope name v)
  newScope : R ScopeId Run.newScope Run.newScope
  assign (tier : Tier) (scope : ScopeId) (id name : String) (v : Value) :
    R Unit (Run.assign registry tier scope id name v) (Run.assign registry tier scope id name v)
  unassign (tier : Tier) (scope : ScopeId) (id name : String) :
    R Unit (Run.unassign tier scope id name) (Run.unassign tier scope id name)

namespace Quiet

variable {R : (α : Type) → Run α → Run α → Prop} {program : Program} {settle settle' : Settle}
  {ctx : Context}

section Basic

variable (h : Quiet R)
include h

/-! ### Runs made of a few steps -/

theorem ofExcept {α : Type} (line : Nat) (e : Except Cause α) :
    R α (Run.ofExcept line e) (Run.ofExcept line e) := by
  cases e with
  | ok a => exact h.pure a
  | error cause => exact h.fail _ rfl

theorem contextFail {α : Type} (cause : Cause) : R α (ctx.fail cause) (ctx.fail cause) :=
  h.fail _ rfl

theorem read (cell : CellId) : R Value (Run.read cell) (Run.read cell) :=
  h.bind h.memory fun _ _ => h.pure _

theorem resolve (name : String) : R CellId (ctx.resolve name) (ctx.resolve name) := by
  refine h.bind (h.lookUp ctx name) fun cell _ => ?_
  cases cell with
  | some cell => exact h.pure cell
  | none => exact h.contextFail _

theorem directoryObject (element : ElementKind) (key : String) :
    R Value (ctx.directoryObject program element key)
      (ctx.directoryObject program element key) := by
  unfold Context.directoryObject
  split
  · exact h.pure _
  · exact h.contextFail _

theorem typed (element : ElementKind) (items : List Value) :
    R Value (ctx.typed element items) (ctx.typed element items) := by
  unfold Context.typed
  cases hc : Collection.typed element items with
  | ok c => exact h.pure _
  | error f =>
    obtain ⟨found, rfl⟩ := typed_eq_error hc
    exact h.fail _ rfl

theorem allObjects (element : ElementKind) :
    R Value (ctx.allObjects program element) (ctx.allObjects program element) := by
  unfold Context.allObjects
  split
  · exact h.typed _ _
  · exact h.contextFail _

theorem itemValue (element : ElementKind) (v : Value) :
    R Value (ctx.itemValue program element v) (ctx.itemValue program element v) := by
  unfold Context.itemValue
  split
  · split
    · exact h.directoryObject _ _
    · exact h.pure _
  · exact h.pure _

theorem bareObject? (element : ElementKind) (item : Param) :
    R (Option String) (ctx.bareObject? element item) (ctx.bareObject? element item) := by
  unfold Context.bareObject?
  split
  · refine h.bind (h.lookUp ctx _) fun cell _ => ?_
    split
    · exact h.pure _
    · exact h.pure _
  · exact h.pure _

theorem sameCell (left right : Param) :
    R Bool (ctx.sameCell left right) (ctx.sameCell left right) := by
  unfold Context.sameCell
  split
  · refine h.bind (h.lookUp ctx _) fun x _ => h.bind (h.lookUp ctx _) fun y _ => ?_
    split
    · exact h.pure _
    · exact h.pure _
  · exact h.pure _

theorem truth (connected : Bool) (v : Value) :
    R Bool (ctx.truth connected v) (ctx.truth connected v) := h.ofExcept _ _

/-- A truth value that is handed on as a value. -/
theorem truthValue (connected : Bool) (v : Value) (f : Bool → Value) :
    R Value (do let b ← ctx.truth connected v; return f b)
      (do let b ← ctx.truth connected v; return f b) :=
  h.bind (h.truth connected v) fun _ _ => h.pure _

end Basic

/-! ### Evaluation -/

mutual

/-- **Evaluation respects a congruence**: two ways to settle that are related on the commands in a
param give related evaluations of the param. -/
theorem evaluate (h : Quiet R) : ∀ p : Param,
    (∀ c ∈ p.commands, R Settled (settle ctx c) (settle' ctx c)) →
      R Value (evaluate program settle ctx p) (evaluate program settle' ctx p)
  | .value v, _ => by
    simp only [StageScript.evaluate]
    exact h.pure v
  | .variable name, _ => by
    simp only [StageScript.evaluate]
    exact h.bind (h.resolve name) fun cell _ => h.read cell
  | .loopIndex, _ => by
    simp only [StageScript.evaluate]
    split
    · exact h.pure _
    · exact h.contextFail _
  | .loopObject, _ => by
    simp only [StageScript.evaluate]
    exact h.contextFail _
  | .command c, hs => by
    simp only [StageScript.evaluate]
    refine h.bind (hs c (List.mem_singleton_self c)) fun settled _ => ?_
    cases settled with
    | value v => exact h.pure v
    | signal s => exact h.contextFail _
  | .bindings _, _ => by
    simp only [StageScript.evaluate]
    exact h.contextFail _
  | .collection element bare all items, hs => by
    simp only [StageScript.evaluate]
    split
    · exact h.allObjects element
    · refine h.bind (evaluateItems h element items hs) fun values _ => ?_
      split
      · exact h.pure _
      · exact h.typed _ _
  | .math operator left right, hs => by
    simp only [StageScript.evaluate]
    have hl := evaluate h left fun c hc => hs c (List.mem_append_left _ hc)
    have hr := evaluateOption h right fun c hc => hs c (List.mem_append_right _ hc)
    exact h.bind hl fun x _ => h.bind hr fun y _ => h.ofExcept _ _
  | .concat left right, hs | .union left right, hs | .difference left right, hs => by
    simp only [StageScript.evaluate]
    have hl := evaluate h left fun c hc => hs c (List.mem_append_left _ hc)
    have hr := evaluate h right fun c hc => hs c (List.mem_append_right _ hc)
    exact h.bind hl fun x _ => h.bind hr fun y _ => h.ofExcept _ _
  | .condition comparator left right, hs => by
    have hl := evaluate h left fun c hc => hs c (List.mem_append_left _ hc)
    have hr := evaluateOption h right fun c hc => hs c (List.mem_append_right _ hc)
    cases comparator with
    | identity | not =>
      simp only [StageScript.evaluate]
      exact h.bind hl fun x _ => h.truthValue false x _
    | and =>
      simp only [StageScript.evaluate]
      refine h.bind hl fun x _ => h.bind (h.truth true x) fun b _ => ?_
      split
      · exact h.bind hr fun y _ => h.truthValue true y _
      · exact h.pure _
    | or =>
      simp only [StageScript.evaluate]
      refine h.bind hl fun x _ => h.bind (h.truth true x) fun b _ => ?_
      split
      · exact h.pure _
      · exact h.bind hr fun y _ => h.truthValue true y _
    | equals =>
      simp only [StageScript.evaluate]
      refine h.bind (h.sameCell left _) fun b _ => ?_
      split
      · exact h.pure _
      · exact h.bind hl fun x _ => h.bind hr fun y _ => h.pure _
    | greaterThan | lessThan =>
      simp only [StageScript.evaluate]
      exact h.bind hl fun x _ => h.bind hr fun y _ =>
        h.bind (h.ofExcept _ _) fun b _ => h.pure _
  | .ambiguous place left right, hs => by
    simp only [StageScript.evaluate]
    have hl := evaluate h left fun c hc => hs c (List.mem_append_left _ hc)
    have hr := evaluate h right fun c hc => hs c (List.mem_append_right _ hc)
    exact h.bind hl fun x _ => h.operate ctx place x hr
  | .absent, _ => by
    simp only [StageScript.evaluate]
    exact h.pure _

theorem evaluateOption (h : Quiet R) : ∀ p : Option Param,
    (∀ c ∈ operandCommands p, R Settled (settle ctx c) (settle' ctx c)) →
      R Value (evaluateOption program settle ctx p) (evaluateOption program settle' ctx p)
  | none, _ => by
    simp only [StageScript.evaluateOption]
    exact h.pure _
  | some p, hs => by
    simp only [StageScript.evaluateOption]
    exact evaluate h p hs

theorem evaluateItems (h : Quiet R) (element : ElementKind) : ∀ items : List Param,
    (∀ c ∈ itemCommands items, R Settled (settle ctx c) (settle' ctx c)) →
      R (List Value) (evaluateItems program settle ctx element items)
        (evaluateItems program settle' ctx element items)
  | [], _ => by
    simp only [StageScript.evaluateItems]
    exact h.pure _
  | item :: items, hs => by
    simp only [StageScript.evaluateItems]
    have hi := evaluate h item fun c hc => hs c (List.mem_append_left _ hc)
    have hr := evaluateItems h element items fun c hc => hs c (List.mem_append_right _ hc)
    refine h.bind (h.bareObject? element item) fun key _ => ?_
    split
    · exact h.bind (h.directoryObject element _) fun v _ => h.bind hr fun vs _ => h.pure _
    · exact h.bind hi fun v _ => h.bind (h.itemValue element v) fun v _ =>
        h.bind hr fun vs _ => h.pure _

end

end Quiet

end StageScript
