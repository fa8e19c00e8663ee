import StageScript.Proofs.Engine.Served
import StageScript.Proofs.Engine.Settle

/-!
# The faults commands stop with

Which faults can a run stop with? `Run.Stops` says of a run that all of them have a property. For a
command of the language that was compiled, there are two kinds: a fault that the command raises
itself, which is always on the line of its context and has an ordinary cause (`Cause.isOrdinary`),
and a fault of a command that it settles. So if a property admits the faults of the first kind
(`Context.Admits`) and settling the commands nested in a command stops with it, executing the
command does, too (`Program.IsCompiled.stops_execute`).

By induction on the fuel, settling a compiled command stops for an ordinary cause or for one of the
limits, and for nothing else (`Program.IsCompiled.stops_settle`).
-/

namespace StageScript

/-- The causes for which a command of the language may stop in its own place, if its slots have the
shape its behaviour needs. -/
def Cause.isOrdinary : Cause → Bool
  | .misfit _ _ | .unresolved _ | .loopIndexUnbound | .loopObject | .forEach | .elseWithoutIf
  | .signalAsValue _ _ | .bindingsAsValue | .wrongKind _ _ _ _ | .wrongTarget _ _
  | .wrongCounter _ _ | .wrongStep | .labelNotFound _ | .objectNotFound _ _
  | .unsupportedOperator _ _ | .notACondition _ | .notALogicalOperand _ | .unordered _ _
  | .tierConflict _ _ _ => true
  | .wrongShape _ expected _ => expected = "variable"
  | _ => false

namespace Run

variable {α β : Type} {P : Fault → Prop}

/-- Every fault a run stops with has a property. -/
def Stops (m : Run α) (P : Fault → Prop) : Prop := ∀ s f t, m s = .error (.fault f) t → P f

theorem Stops.mono {m : Run α} {Q : Fault → Prop} (h : m.Stops P) (hpq : ∀ {f}, P f → Q f) :
    m.Stops Q := fun s f t hf => hpq (h s f t hf)

theorem stops_of_ok {m : Run α} (h : ∀ s, ∃ a t, m s = .ok a t) : m.Stops P := by
  intro s f t hf
  obtain ⟨a, t', ha⟩ := h s
  rw [ha] at hf
  cases hf

theorem stops_pure (a : α) : (pure a : Run α).Stops P := stops_of_ok fun s => ⟨a, s, rfl⟩

theorem stops_fail {f : Fault} (h : P f) : (fail f : Run α).Stops P := by
  intro s f' t hf
  cases hf
  exact h

theorem stops_exhausted : (Context.exhausted : Run α).Stops P := by
  intro s f t hf
  cases hf

theorem Stops.bind_of {m : Run α} {f : α → Run β} (hm : m.Stops P)
    (hf : ∀ a, m.Returns a → (f a).Stops P) : (m >>= f).Stops P := by
  intro s e t he
  rcases bind_eq_error he with he | ⟨a, u, ha, he⟩
  · exact hm s e t he
  · exact hf a ⟨s, u, ha⟩ u e t he

theorem Stops.bind {m : Run α} {f : α → Run β} (hm : m.Stops P) (hf : ∀ a, (f a).Stops P) :
    (m >>= f).Stops P := hm.bind_of fun a _ => hf a

/-- The faults with a line attached. -/
theorem Stops.atLine {m : Run α} {Q : Fault → Prop} (h : m.Stops Q) {line : Nat}
    (hpq : ∀ f, Q f → P (f.atLine line)) : (m.atLine line).Stops P := by
  intro s f t hf
  cases hm : m s with
  | ok a u =>
    rw [atLine_of_ok line hm] at hf
    cases hf
  | error e u =>
    rw [atLine_of_error line hm] at hf
    cases e with
    | outOfFuel => cases hf
    | fault g =>
      cases hf
      exact hpq g (h s g _ hm)

theorem stops_forM {γ : Type} {f : γ → Run Unit} (hf : ∀ a, (f a).Stops P) (l : List γ) :
    (l.forM f).Stops P := by
  induction l with
  | nil => exact stops_pure _
  | cons a l ih => exact (hf a).bind fun _ => ih

theorem stops_mapM {γ : Type} {f : γ → Run β} (hf : ∀ a, (f a).Stops P) (l : List γ) :
    (l.mapM f).Stops P := by
  induction l with
  | nil =>
    rw [List.mapM_nil]
    exact stops_pure _
  | cons a l ih =>
    rw [List.mapM_cons]
    exact (hf a).bind fun b => ih.bind fun bs => stops_pure _

theorem stops_read (cell : CellId) : (read cell).Stops P := stops_of_ok fun s => ⟨_, s, rfl⟩

theorem stops_write (cell : CellId) (v : Value) : (write cell v).Stops P :=
  stops_of_ok fun _ => ⟨(), _, rfl⟩

theorem stops_lookUp (ctx : Context) (name : String) : (ctx.lookUp? name).Stops P :=
  stops_of_ok fun s => ⟨_, s, rfl⟩

/-- **A free name is refused for nothing but a conflict of tiers.** -/
theorem stops_assign {registry : Registry} {name : String} (h : registry.IsFree name) (tier : Tier)
    (scope : ScopeId) (id : String) (v : Value) :
    (Run.assign registry tier scope id name v).Stops fun f =>
      ∃ other, f = { cause := .tierConflict tier name other } := by
  intro s f t hf
  cases ha : s.assign registry tier scope id name v with
  | ok u =>
    rw [assign_of_ok ha] at hf
    cases hf
  | error g =>
    rw [assign_of_error ha] at hf
    cases hf
    unfold State.assign at ha
    split at ha
    · cases ha
    · split at ha
      · next cause hcause =>
        cases ha
        simp only [State.refusal?, h.1, h.2, Bool.false_eq_true, if_false] at hcause
        obtain ⟨other, -, rfl⟩ := Option.map_eq_some_iff.mp hcause
        exact ⟨other, rfl⟩
      · cases ha

end Run

/-! ### Operators -/

namespace Operator

variable {left right : Value} {cause : Cause}

theorem math_ordinary {operator : MathOperator} (h : math operator left right = .error cause) :
    cause.isOrdinary = true := by
  unfold math at h
  split at h
  · cases h
    rfl
  · split at h
    · cases h
    · split at h <;> cases h
      rfl

theorem concat_ordinary (h : concat left right = .error cause) : cause.isOrdinary = true := by
  unfold concat at h
  split at h <;> cases h
  rfl

theorem extend_ordinary {c : Collection} {items : List Value} {f : Fault}
    (h : c.extend items = .error f) : f.cause.isOrdinary = true := by
  unfold Collection.extend at h
  split at h <;> cases h
  rfl

theorem collections_ordinary {operator : String}
    (h : collections operator left right = .error cause) : cause.isOrdinary = true := by
  unfold collections at h
  split at h <;> cases h <;> rfl

theorem union_ordinary (h : union left right = .error cause) : cause.isOrdinary = true := by
  unfold union at h
  cases hc : collections "WITH" left right with
  | error e =>
    rw [hc] at h
    cases h
    exact collections_ordinary hc
  | ok pair =>
    obtain ⟨a, b⟩ := pair
    rw [hc] at h
    dsimp only [bind, Except.bind] at h
    split at h <;> cases h
    next f hf => exact extend_ordinary hf

theorem difference_ordinary (h : difference left right = .error cause) :
    cause.isOrdinary = true := by
  unfold difference at h
  cases hc : collections "WITHOUT" left right with
  | error e =>
    rw [hc] at h
    cases h
    exact collections_ordinary hc
  | ok pair =>
    rw [hc] at h
    cases h

theorem both_ordinary (h : both left right = .error cause) : cause.isOrdinary = true := by
  unfold both at h
  split at h <;> cases h
  rfl

theorem apply_ordinary {choice : Choice} (h : apply choice left right = .error cause) :
    cause.isOrdinary = true := by
  cases choice with
  | add | subtract => exact math_ordinary h
  | concat => exact concat_ordinary h
  | union => exact union_ordinary h
  | difference => exact difference_ordinary h
  | and => exact both_ordinary h

theorem choose_ordinary {operator : AmbiguousOperator} (h : choose operator left = .error cause) :
    cause.isOrdinary = true := by
  unfold choose at h
  split at h <;> cases h
  rfl

theorem ordered_ordinary {greater : Bool} (h : ordered greater left right = .error cause) :
    cause.isOrdinary = true := by
  unfold ordered at h
  split at h <;> cases h
  rfl

theorem truth_ordinary {connected : Bool} (h : truth connected left = .error cause) :
    cause.isOrdinary = true := by
  unfold truth at h
  split at h <;> cases h
  cases connected <;> rfl

end Operator
open Run

/-! ### Evaluation -/

/-- **A property admits the faults a command raises in the place of a context**: those on its line
with an ordinary cause. -/
def Context.Admits (ctx : Context) (P : Fault → Prop) : Prop :=
  ∀ cause : Cause, cause.isOrdinary = true → P (.on ctx.line cause)

namespace Context.Admits

variable {program : Program} {settle : Settle} {ctx : Context} {P : Fault → Prop} {α : Type}
  (h : ctx.Admits P)
include h

theorem fail {cause : Cause} (hc : cause.isOrdinary = true) : (ctx.fail cause : Run α).Stops P :=
  stops_fail (h cause hc)

theorem ofExcept {e : Except Cause α} (he : ∀ cause, e = .error cause → cause.isOrdinary = true) :
    (Run.ofExcept ctx.line e).Stops P := by
  cases e with
  | ok a => exact stops_pure a
  | error cause => exact h.fail (he cause rfl)

theorem resolve (name : String) : (ctx.resolve name).Stops P := by
  refine (stops_lookUp ctx name).bind fun cell => ?_
  split
  · exact stops_pure _
  · exact h.fail rfl

theorem truth (connected : Bool) (v : Value) : (ctx.truth connected v).Stops P :=
  h.ofExcept fun _ he => Operator.truth_ordinary he

theorem truthValue (connected : Bool) (v : Value) (f : Bool → Value) :
    (do let b ← ctx.truth connected v; return f b : Run Value).Stops P :=
  (h.truth connected v).bind fun _ => stops_pure _

theorem choice (place : Occurrence) (left : Value) : (ctx.choice place left).Stops P := by
  refine (stops_of_ok fun s => ⟨s, s, rfl⟩ : (get : Run State).Stops P).bind fun s => ?_
  split
  · exact stops_pure _
  · refine (h.ofExcept fun _ he => Operator.choose_ordinary he).bind fun choice => ?_
    exact (stops_of_ok fun s => ⟨(), _, rfl⟩).bind fun _ => stops_pure _

theorem directoryObject (element : ElementKind) (key : String) :
    (ctx.directoryObject program element key).Stops P := by
  unfold Context.directoryObject
  split
  · exact stops_pure _
  · exact h.fail rfl

theorem typed (element : ElementKind) (items : List Value) :
    (ctx.typed element items).Stops P := by
  unfold Context.typed
  cases hc : Collection.typed element items with
  | ok c => exact stops_pure _
  | error f =>
    obtain ⟨found, rfl⟩ := typed_eq_error hc
    exact h.fail rfl

/-- `ALL` lists characters and entities. -/
theorem allObjects {element : ElementKind} (he : element.isObject = true) :
    (ctx.allObjects program element).Stops P := by
  unfold Context.allObjects
  split
  · exact h.typed _ _
  · next hnone => cases element <;> simp_all [ElementKind.isObject, Directory.objects?]

theorem itemValue (element : ElementKind) (v : Value) :
    (ctx.itemValue program element v).Stops P := by
  unfold Context.itemValue
  split
  · split
    · exact h.directoryObject _ _
    · exact stops_pure _
  · exact stops_pure _

omit h in
theorem bareObject (element : ElementKind) (item : Param) :
    (ctx.bareObject? element item).Stops P := by
  unfold Context.bareObject?
  split
  · refine (stops_lookUp ctx _).bind fun cell => ?_
    split <;> exact stops_pure _
  · exact stops_pure _

omit h in
theorem sameCell (left right : Param) : (ctx.sameCell left right).Stops P := by
  unfold Context.sameCell
  split
  · refine (stops_lookUp ctx _).bind fun x => (stops_lookUp ctx _).bind fun y => ?_
    split <;> exact stops_pure _
  · exact stops_pure _

theorem evaluateItems {element : ElementKind} {items : List Param}
    (hi : ∀ p ∈ items, (StageScript.evaluate program settle ctx p).Stops P) :
    (StageScript.evaluateItems program settle ctx element items).Stops P := by
  induction items with
  | nil => exact stops_pure _
  | cons item items ih =>
    simp only [StageScript.evaluateItems]
    have hitem := hi item List.mem_cons_self
    have hitems := ih fun p hp => hi p (List.mem_cons_of_mem _ hp)
    refine (bareObject element item).bind fun key => ?_
    split
    · exact (h.directoryObject _ _).bind fun v => hitems.bind fun vs => stops_pure _
    · exact hitem.bind fun v => (h.itemValue _ v).bind fun v => hitems.bind fun vs => stops_pure _

omit h in
theorem evaluateOption {right : Option Param}
    (hr : ∀ p ∈ right, (StageScript.evaluate program settle ctx p).Stops P) :
    (StageScript.evaluateOption program settle ctx right).Stops P := by
  cases right with
  | none => exact stops_pure _
  | some p => exact hr p rfl

/-- **Evaluating a proper param**, if settling the commands in it stops as it should. -/
theorem evaluate {p : Param} {registry : Registry}
    (hp : p.Proper registry fun c => (settle ctx c).Stops P) :
    (StageScript.evaluate program settle ctx p).Stops P := by
  induction hp with
  | value v => exact stops_pure _
  | absent => exact stops_pure _
  | «variable» =>
    simp only [StageScript.evaluate]
    exact (h.resolve _).bind fun cell => stops_read cell
  | loopIndex =>
    simp only [StageScript.evaluate]
    split
    · exact stops_pure _
    · exact h.fail rfl
  | loopObject | bindings => exact h.fail rfl
  | command hc =>
    simp only [StageScript.evaluate]
    refine hc.bind fun settled => ?_
    split
    · exact stops_pure _
    · exact h.fail rfl
  | collection hall _ ih =>
    simp only [StageScript.evaluate]
    split
    · next hall' => exact h.allObjects (hall hall')
    · refine (h.evaluateItems ih).bind fun values => ?_
      split
      · exact stops_pure _
      · exact h.typed _ _
  | math _ _ ihl ihr =>
    simp only [StageScript.evaluate]
    exact ihl.bind fun x => (evaluateOption ihr).bind fun y =>
      h.ofExcept fun _ he => Operator.math_ordinary he
  | concat _ _ ihl ihr =>
    simp only [StageScript.evaluate]
    exact ihl.bind fun x => ihr.bind fun y => h.ofExcept fun _ he => Operator.concat_ordinary he
  | union _ _ ihl ihr =>
    simp only [StageScript.evaluate]
    exact ihl.bind fun x => ihr.bind fun y => h.ofExcept fun _ he => Operator.union_ordinary he
  | difference _ _ ihl ihr =>
    simp only [StageScript.evaluate]
    exact ihl.bind fun x => ihr.bind fun y =>
      h.ofExcept fun _ he => Operator.difference_ordinary he
  | ambiguous _ _ ihl ihr =>
    simp only [StageScript.evaluate]
    exact ihl.bind fun x => (h.choice _ x).bind fun choice => ihr.bind fun y =>
      h.ofExcept fun _ he => Operator.apply_ordinary he
  | @condition comparator _ _ _ _ ihl ihr =>
    have hr := evaluateOption ihr
    cases comparator with
    | identity | not =>
      simp only [StageScript.evaluate]
      exact ihl.bind fun x => h.truthValue false x _
    | and =>
      simp only [StageScript.evaluate]
      refine ihl.bind fun x => (h.truth true x).bind fun b => ?_
      split
      · exact hr.bind fun y => h.truthValue true y _
      · exact stops_pure _
    | or =>
      simp only [StageScript.evaluate]
      refine ihl.bind fun x => (h.truth true x).bind fun b => ?_
      split
      · exact stops_pure _
      · exact hr.bind fun y => h.truthValue true y _
    | equals =>
      simp only [StageScript.evaluate]
      refine (sameCell _ _).bind fun b => ?_
      split
      · exact stops_pure _
      · exact ihl.bind fun x => hr.bind fun y => stops_pure _
    | greaterThan | lessThan =>
      simp only [StageScript.evaluate]
      exact ihl.bind fun x => hr.bind fun y =>
        (h.ofExcept fun _ he => Operator.ordered_ordinary he).bind fun b => stops_pure _

end Context.Admits

namespace Context

variable {settle : Settle} {ctx : Context} {P : Fault → Prop} {index : Nat}

theorem stops_body_bind {β : Type} {d : Command} {f : Command → Run β}
    (h : ctx.param index = .command d) (hf : (f d).Stops P) : (ctx.body index >>= f).Stops P := by
  unfold body
  rw [h]
  exact (pure_bind d f).symm ▸ hf

theorem stops_name_bind {β : Type} {name : String} {f : String → Run β}
    (h : ctx.param index = .ofText name) (hf : (f name).Stops P) :
    (ctx.name index >>= f).Stops P := by
  unfold Context.name
  rw [h]
  exact (pure_bind name f).symm ▸ hf

theorem stops_unassignFor (tier : Tier) (name id : String) :
    (ctx.unassignFor tier name id).Stops P := stops_of_ok fun _ => ⟨(), _, rfl⟩

/-! ### Loops -/

section Pass

variable {body : Command} (hb : ∀ i, (settle { ctx with loopIndex := i } body).Stops P)
include hb

theorem stops_pass (i : Option Number) :
    (pass settle { ctx with loopIndex := i } body).Stops P := by
  refine (hb i).bind fun settled => ?_
  split <;> exact stops_pure _

theorem stops_countDown (count : Nat) : (ctx.countDown settle body count).Stops P := by
  induction count with
  | zero => exact stops_pure _
  | succ count ih =>
    refine (stops_pass hb _).bind fun signal => ?_
    split
    · exact stops_pure _
    · exact ih

theorem stops_countUp (count i : Nat) : (ctx.countUp settle body count i).Stops P := by
  induction count generalizing i with
  | zero => exact stops_pure _
  | succ count ih =>
    refine (stops_pass hb _).bind fun signal => ?_
    split
    · exact stops_pure _
    · exact ih _

theorem stops_alwaysLoop (budget : Nat) : (ctx.alwaysLoop settle body budget).Stops P := by
  induction budget with
  | zero => exact stops_exhausted
  | succ budget ih =>
    refine (stops_pass hb ctx.loopIndex).bind fun signal => ?_
    split
    · exact stops_pure _
    · exact ih

end Pass

end Context

namespace Context.Admits

variable {program : Program} {settle : Settle} {ctx : Context} {P : Fault → Prop}
  (h : ctx.Admits P)
include h

theorem counter (cell : CellId) : (ctx.counter cell).Stops P := by
  refine (stops_read cell).bind fun v => ?_
  split
  · exact stops_pure _
  · exact h.fail rfl

section Pass

variable {body : Command} (hb : ∀ i, (settle { ctx with loopIndex := i } body).Stops P)
include hb

theorem countdownLoop (cell : CellId) (budget : Nat) :
    (ctx.countdownLoop settle cell body budget).Stops P := by
  induction budget with
  | zero => exact stops_exhausted
  | succ budget ih =>
    refine (h.counter cell).bind fun current => ?_
    split
    · exact stops_pure _
    · refine (stops_write _ _).bind fun _ => (stops_pass hb ctx.loopIndex).bind fun signal => ?_
      split
      · exact stops_pure _
      · exact ih

theorem countUpLoop (cell : CellId) (limit : Float) (budget : Nat) :
    (ctx.countUpLoop settle cell limit body budget).Stops P := by
  induction budget with
  | zero => exact stops_exhausted
  | succ budget ih =>
    refine (h.counter cell).bind fun current => ?_
    split
    · refine (stops_pass hb ctx.loopIndex).bind fun signal => ?_
      split
      · exact stops_pure _
      · exact (h.counter cell).bind fun _ => (stops_write _ _).bind fun _ => ih
    · exact stops_pure _

end Pass

theorem stepTarget : ctx.stepTarget.Stops P := by
  unfold Context.stepTarget
  dsimp only
  generalize Option.bind _ Param.variableName? = target
  cases target with
  | some name => exact stops_pure _
  | none => exact h.fail rfl

/-! ### Slots -/

theorem labelTarget {index : Nat} {label : String} (hl : ctx.param index = .ofText label) :
    (ctx.labelTarget program index).Stops P := by
  refine stops_name_bind hl ?_
  split
  · exact stops_pure _
  · have hbehind : (ctx.labelBehind? program label).Stops P := by
      refine (stops_lookUp ctx label).bind fun cell => ?_
      split
      · exact stops_pure _
      · refine (stops_read _).bind fun v => ?_
        split <;> exact stops_pure _
    refine hbehind.bind fun line => ?_
    split
    · exact stops_pure _
    · exact h.fail rfl

theorem cellSlot (index : Nat) : (ctx.cellSlot index).Stops P := by
  unfold Context.cellSlot
  split
  · exact h.resolve _
  · exact h.fail rfl

theorem assignFor {name : String} (hfree : program.registry.IsFree name) (tier : Tier) (v : Value)
    (id : String) : (ctx.assignFor program tier name v id).Stops P := by
  refine (stops_assign hfree tier ctx.scope id v).atLine ?_
  rintro f ⟨other, rfl⟩
  exact h _ rfl

section Supplied

variable (hc : ∀ i, ∀ d ∈ ctx.command.inner, (settle { ctx with loopIndex := i } d).Stops P)
  (hp : ∀ p ∈ ctx.command.params, p.Proper program.registry fun _ => True)
include hc hp

omit h in
theorem proper_param (index : Nat) :
    (ctx.param index).Proper program.registry fun c => (settle ctx c).Stops P := by
  have hinner : ∀ c ∈ (ctx.param index).commands, (settle ctx c).Stops P := fun c hmem =>
    hc ctx.loopIndex c (Command.mem_inner_of_mem_param hmem)
  have hparam : (ctx.param index).Proper program.registry fun _ => True := by
    show (ctx.command.params.getD index .absent).Proper program.registry fun _ => True
    rw [List.getD_eq_getElem?_getD]
    cases hi : ctx.command.params[index]? with
    | some p => exact hp p (List.mem_of_getElem? hi)
    | none => exact .absent
  exact hparam.of_commands hinner

theorem value (index : Nat) : (ctx.value program settle index).Stops P :=
  h.evaluate (proper_param hc hp index)

theorem number (index : Nat) : (ctx.number program settle index).Stops P := by
  refine (h.value hc hp index).bind fun v => ?_
  split
  · exact stops_pure _
  · exact h.fail rfl

theorem boolean (index : Nat) : (ctx.boolean program settle index).Stops P := by
  refine (h.value hc hp index).bind fun v => ?_
  split
  · exact stops_pure _
  · exact h.fail rfl

theorem targetIds : (ctx.targetIds program settle).Stops P := by
  have hcollection : (ctx.collection program settle 0).Stops P := by
    refine (h.value hc hp 0).bind fun v => ?_
    split
    · exact stops_pure _
    · exact h.fail rfl
  refine hcollection.bind fun targets => stops_mapM (fun v => ?_) _
  unfold targetId
  split
  · exact stops_pure _
  · exact h.fail rfl

/-! ### Behaviours -/

theorem whileLoop (negated : Bool) {body : Command} (hbody : body ∈ ctx.command.inner)
    (budget : Nat) : (ctx.whileLoop program settle negated body budget).Stops P := by
  induction budget with
  | zero => exact stops_exhausted
  | succ budget ih =>
    refine (h.boolean hc hp 0).bind fun condition => ?_
    split
    · refine (stops_pass (fun i => hc i body hbody) ctx.loopIndex).bind fun signal => ?_
      split
      · exact stops_pure _
      · exact ih
    · exact stops_pure _

theorem forLoop (target : String) {body : Command} (hbody : body ∈ ctx.command.inner)
    (budget : Nat) : (ctx.forLoop program settle target body budget).Stops P := by
  induction budget with
  | zero => exact stops_exhausted
  | succ budget ih =>
    refine (h.boolean hc hp 0).bind fun condition => ?_
    split
    · refine (stops_pass (fun i => hc i body hbody) ctx.loopIndex).bind fun signal => ?_
      split
      · exact stops_pure _
      · exact (h.value hc hp 1).bind fun next => (h.resolve target).bind fun cell =>
          (stops_write cell next).bind fun _ => ih
    · exact stops_pure _

omit hc hp in
theorem bindArguments (scope : ScopeId) {list : List (String × Param)}
    (hlist : ∀ b ∈ list, b.2.Proper program.registry fun c => (settle ctx c).Stops P) :
    (ctx.bindArguments program settle scope list).Stops P := by
  induction list with
  | nil => exact stops_pure _
  | cons b list ih =>
    have hbinding : (ctx.bindArgument program settle scope b).Stops P := by
      unfold bindArgument
      split
      · exact (h.resolve _).bind fun cell => stops_of_ok fun _ => ⟨(), _, rfl⟩
      · exact (h.evaluate (hlist b List.mem_cons_self)).bind fun v =>
          stops_of_ok fun _ => ⟨(), _, rfl⟩
    exact hbinding.bind fun _ => ih fun b hb => hlist b (List.mem_cons_of_mem _ hb)

theorem call {label : String} (hl : ctx.param 0 = .ofText label) :
    (ctx.call program settle).Stops P := by
  have hbindings := proper_param hc hp 1
  refine (h.labelTarget hl).bind fun line => ?_
  refine (stops_of_ok fun _ => ⟨_, _, rfl⟩ : Run.newScope.Stops P).bind fun scope => ?_
  split
  · next list hlist =>
    rw [hlist] at hbindings
    cases hbindings with
    | bindings _ hvalue =>
      exact (h.bindArguments scope hvalue).bind fun _ => stops_pure _
  · exact stops_pure _

theorem branch (negated : Bool) : (ctx.branch program settle negated).Stops P := by
  refine (h.boolean hc hp 0).bind fun condition => ?_
  split <;> exact stops_pure _

omit hc hp in
theorem shareCell {name : String}
    (hassign : ∀ v, (ctx.assign program .temp name v).Stops P) (source : String) :
    (ctx.shareCell program name source).Stops P := by
  refine (h.resolve source).bind fun cell => ?_
  refine (stops_of_ok fun s => ⟨_, s, rfl⟩ : Run.memory.Stops P).bind fun memory => ?_
  have hbind : (Run.bind ctx.scope name cell).Stops P := stops_of_ok fun _ => ⟨(), _, rfl⟩
  dsimp only
  split
  · exact (hassign .unit).bind fun _ => hbind.bind fun _ => stops_pure _
  · exact hbind.bind fun _ => stops_pure _

theorem setHere {name : String} (hn : ctx.param 0 = .ofText name)
    (hfree : program.registry.IsFree name) : (ctx.setHere program settle).Stops P := by
  have hassign : ∀ v, (ctx.assign program .temp name v).Stops P := fun v =>
    h.assignFor hfree .temp v ctx.actor.id
  refine stops_name_bind hn ?_
  split
  · exact h.shareCell hassign _
  · exact (h.value hc hp 1).bind fun v => (hassign v).bind fun _ => stops_pure _

/-- **Performing a command that has what its behaviour needs.** One case for each behaviour of the
language. -/
theorem perform {signature : Signature} {behaviour : Behaviour}
    (hs : behaviour.Served program.registry ctx.command) (budget : Nat) :
    (StageScript.perform program settle budget ctx ⟨signature, behaviour⟩).Stops P := by
  have hbody : ∀ {i d}, ctx.param i = .command d → d ∈ ctx.command.inner := fun h =>
    Command.mem_inner_of_command? (congrArg Param.command? h)
  cases behaviour with
  | endAll | goBack => exact stops_pure _
  | strayElse | forEach => exact h.fail rfl
  | goTo =>
    obtain ⟨label, hlabel⟩ := hs.label 0 rfl
    exact (h.labelTarget hlabel).bind fun line => stops_pure _
  | call =>
    obtain ⟨label, hlabel⟩ := hs.label 0 rfl
    exact h.call hc hp hlabel
  | branch negated => exact h.branch hc hp negated
  | returnValue | returnAll => exact (h.value hc hp 0).bind fun v => stops_pure _
  | repeatWhile negated =>
    obtain ⟨d, hd⟩ := hs.body 1 rfl
    exact stops_body_bind hd (h.whileLoop hc hp negated (hbody hd) budget)
  | repeatFor =>
    obtain ⟨d, hd⟩ := hs.body 2 rfl
    refine stops_body_bind hd (h.stepTarget.bind fun target => ?_)
    exact h.forLoop hc hp target (hbody hd) budget
  | counted descending =>
    obtain ⟨d, hd⟩ := hs.body 1 rfl
    have hpass := fun i => hc i d (hbody hd)
    refine (h.number hc hp 0).bind fun count => stops_body_bind hd ?_
    split
    · exact stops_countDown hpass _
    · exact stops_countUp hpass _ _
  | countdownWith =>
    obtain ⟨d, hd⟩ := hs.body 1 rfl
    exact (h.cellSlot 0).bind fun cell => stops_body_bind hd
      (h.countdownLoop (fun i => hc i d (hbody hd)) cell budget)
  | countUpWith =>
    obtain ⟨d, hd⟩ := hs.body 2 rfl
    exact (h.cellSlot 0).bind fun cell => (h.number hc hp 1).bind fun limit =>
      stops_body_bind hd (h.countUpLoop (fun i => hc i d (hbody hd)) cell limit.float budget)
  | always =>
    obtain ⟨d, hd⟩ := hs.body 0 rfl
    exact stops_body_bind hd (stops_alwaysLoop (fun i => hc i d (hbody hd)) budget)
  | set tier =>
    obtain ⟨name, hname, hfree⟩ := hs.name 0 rfl
    exact stops_name_bind hname ((h.value hc hp 1).bind fun v =>
      (h.assignFor hfree tier v _).bind fun _ => stops_pure _)
  | setHere =>
    obtain ⟨name, hname, hfree⟩ := hs.name 0 rfl
    exact h.setHere hc hp hname hfree
  | unset tier =>
    obtain ⟨name, hname, -⟩ := hs.name 0 rfl
    exact stops_name_bind hname ((stops_unassignFor tier name _).bind fun _ => stops_pure _)
  | setFor tier =>
    obtain ⟨name, hname, hfree⟩ := hs.name 1 rfl
    refine (h.targetIds hc hp).bind fun ids => stops_name_bind hname ?_
    exact (h.value hc hp 2).bind fun v =>
      (stops_forM (fun id => h.assignFor hfree tier v id) ids).bind fun _ => stops_pure _
  | unsetFor tier =>
    obtain ⟨name, hname, -⟩ := hs.name 1 rfl
    refine (h.targetIds hc hp).bind fun ids => stops_name_bind hname ?_
    exact (stops_forM (fun id => stops_unassignFor tier name id) ids).bind fun _ => stops_pure _
  | host action => cases hs.ofLanguage

end Supplied

end Context.Admits

/-! ### Settling and running -/

section Settle

variable {program : Program} {settle : Settle} {P : Fault → Prop}

/-- A frame raises two faults itself: it may be refused, and the first frame of a run has nowhere
to go back to. -/
theorem stops_frameRun {frame : Frame}
    (hdepth : program.options.maxFrameDepth < frame.depth →
      P { cause := .callDepth program.options.maxFrameDepth })
    (hback : frame.jumped = false → ∀ line, P (.on line .noReturnTarget))
    (hs : ∀ number c, program.script.commandAt? number = some c →
      ((settle (frame.context c) c).atLine number).Stops P)
    (start : Nat) : (frame.run program settle start).Stops P := by
  have hlines : ∀ remaining line last,
      (frame.runLines program settle remaining line last).Stops P := by
    intro remaining
    induction remaining with
    | zero => exact fun _ _ => stops_pure _
    | succ remaining ih =>
      intro line last
      unfold Frame.runLines
      split
      · exact ih _ _
      · next c hc =>
        refine (hs line c hc).bind fun settled => ?_
        split
        · exact ih _ _
        · next signal =>
          cases signal with
          | goBack =>
            simp only [Frame.receive]
            split
            · exact stops_pure _
            · next hjumped => exact stops_fail (hback (Bool.eq_false_iff.mpr hjumped) line)
          | endAll | returnValue v | returnAll v | exit how => exact stops_pure _
  unfold Frame.run
  split
  · next hd => exact stops_fail (hdepth hd)
  · exact hlines _ _ _

/-- A context on the same line of the same frame. -/
def Context.Beside (ctx' ctx : Context) : Prop := ctx'.line = ctx.line ∧ ctx'.depth = ctx.depth

variable (hprogram : program.IsCompiled) {ctx : Context} (hctx : ctx.Admits P)
include hprogram hctx

/-- **Executing a command** stops with a fault of its own or one of a command in it. -/
theorem Program.IsCompiled.stops_execute {c : Command} {number : Nat}
    (hs : ∀ ctx' : Context, ctx'.Beside ctx → ∀ d ∈ c.inner, (settle ctx' d).Stops P)
    (hc : c.WellFormedThroughout Registry.builtin number) (budget : Nat) :
    (execute program settle budget ctx c).Stops P := by
  have hwell : c.WellFormed Registry.builtin number := hc c (.refl c)
  obtain ⟨type, htype, hserved⟩ := hwell.served
  unfold execute
  rw [hprogram.registry, htype]
  rw [← hprogram.registry] at hserved
  have hchild : (ctx.child c).Admits P := hctx
  refine hchild.perform (fun i d hd => hs { ctx.child c with loopIndex := i } ⟨rfl, rfl⟩ d hd) ?_
    hserved budget
  rw [hprogram.registry]
  exact hwell.proper

/-- Tail calls go down the nesting of the command, and jumps run lines of the script. -/
theorem Program.IsCompiled.stops_ultimate {number : Nat}
    (hlimit : P (.on ctx.line (.tailCallLimit program.options.maxTailCalls)))
    (hs : ∀ ctx' : Context, ctx'.Beside ctx → ∀ d,
      d.WellFormedThroughout Registry.builtin number → (settle ctx' d).Stops P)
    (hfollow : ∀ j, (follow program settle ctx j).Stops P) (budget left : Nat) {c : Command}
    {outcome : Outcome} (hc : c.WellFormedThroughout Registry.builtin number)
    (ho : outcome.Fits c) :
    (ultimate program settle budget ctx left outcome).Stops P := by
  induction left generalizing c outcome with
  | zero =>
    cases outcome with
    | value v | signal s => exact stops_pure _
    | tailCall d | jump j => exact stops_fail hlimit
  | succ left ih =>
    cases outcome with
    | value v | signal s => exact stops_pure _
    | tailCall d =>
      have hd := hc.inner ho
      refine (hprogram.stops_execute hctx (fun ctx' hl e he => hs ctx' hl e (hd.inner he)) hd
        budget).bind_of fun o hret => ih hd (execute_fits o hret)
    | jump j => exact (hfollow j).bind_of fun o hret => ih hc (follow_isFinal j o hret).fits

end Settle

/-- The causes of the limits of a run. -/
def Cause.isLimit : Cause → Bool
  | .callDepth _ | .tailCallLimit _ => true
  | _ => false

/-- **The causes for which settling a compiled command can stop**, by induction on the fuel: those
that a command has in its own place, and the limits. -/
theorem Program.IsCompiled.stops_settle {program : Program} (hprogram : program.IsCompiled)
    (fuel : Nat) (ctx : Context) (number : Nat) (c : Command)
    (hc : c.WellFormedThroughout Registry.builtin number) :
    (settle program fuel ctx c).Stops fun f =>
      f.cause.isOrdinary = true ∨ f.cause.isLimit = true := by
  induction fuel generalizing ctx number c with
  | zero =>
    intro s f t hf
    cases hf
  | succ fuel ih =>
    have hctx : ctx.Admits fun f => f.cause.isOrdinary = true ∨ f.cause.isLimit = true :=
      fun cause hcause => .inl hcause
    have hlines : ∀ j, (follow program (settle program fuel) ctx j).Stops fun f =>
        f.cause.isOrdinary = true ∨ f.cause.isLimit = true := by
      intro j
      refine (stops_frameRun (fun _ => .inr rfl) (fun hjumped => by cases hjumped) ?_ _).bind
        fun how => stops_pure _
      intro n d hd
      refine (ih _ n d (hprogram.lines n d hd)).atLine fun f hf => ?_
      rw [f.cause_atLine]
      exact hf
    refine (hprogram.stops_execute hctx (fun ctx' _ d hd => ih ctx' number d (hc.inner hd)) hc
      fuel).bind_of fun o hret => ?_
    exact hprogram.stops_ultimate hctx (.inr rfl) (fun ctx' _ d hd => ih ctx' number d hd) hlines
      fuel _ hc (execute_fits o hret)

end StageScript
