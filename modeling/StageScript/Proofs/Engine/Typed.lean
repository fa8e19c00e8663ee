import StageScript.Proofs.Engine.Command
import StageScript.Proofs.Engine.Change
import StageScript.Proofs.Grammar.WellFormed
import StageScript.Proofs.Store.Slot
import StageScript.Proofs.Value.Typed

/-!
# Evaluation keeps collections typed

If every cell holds a typed value (`Memory.Typed`), then so it does after every single step of a
run, and what the run hands back is typed: this is `Run.Keeps`, with a rule for binds and one lemma
for each kind of step. New collections come from operators and literals alone, which check their
items; everything else copies values from one place to another. The values that stand in a compiled
script are no collections (`Script.compile_plain`), so evaluating its params keeps cells typed
(`Context.keeps_evaluate`), if settling the commands in them does.
-/

namespace StageScript

open Relation (ReflTransGen)

/-! ### Literals -/

/-- No literal of a param is a collection, and the commands in it have a property. -/
inductive Param.PlainOver (C : Command → Prop) : Param → Prop
  | value {v : Value} (h : v.kind ≠ .collection) : PlainOver C (.value v)
  | variable (name : String) : PlainOver C (.variable name)
  | loopIndex : PlainOver C .loopIndex
  | loopObject : PlainOver C .loopObject
  | absent : PlainOver C .absent
  | command {c : Command} (h : C c) : PlainOver C (.command c)
  | bindings {list : List (String × Param)} (h : ∀ b ∈ list, PlainOver C b.2) :
    PlainOver C (.bindings list)
  | collection {element : ElementKind} {bare all : Bool} {items : List Param}
    (h : ∀ p ∈ items, PlainOver C p) : PlainOver C (.collection element bare all items)
  | math {operator : MathOperator} {left : Param} {right : Option Param} (hleft : PlainOver C left)
    (hright : ∀ p ∈ right, PlainOver C p) : PlainOver C (.math operator left right)
  | concat {left right : Param} (hleft : PlainOver C left) (hright : PlainOver C right) :
    PlainOver C (.concat left right)
  | union {left right : Param} (hleft : PlainOver C left) (hright : PlainOver C right) :
    PlainOver C (.union left right)
  | difference {left right : Param} (hleft : PlainOver C left) (hright : PlainOver C right) :
    PlainOver C (.difference left right)
  | condition {comparator : Comparator} {left : Param} {right : Option Param}
    (hleft : PlainOver C left) (hright : ∀ p ∈ right, PlainOver C p) :
    PlainOver C (.condition comparator left right)
  | ambiguous {place : Occurrence} {left right : Param} (hleft : PlainOver C left)
    (hright : PlainOver C right) : PlainOver C (.ambiguous place left right)

/-- No literal of a command is a collection, in whatever command within it. -/
inductive Command.Plain : Command → Prop
  | of_params {c : Command} (h : ∀ p ∈ c.params, p.PlainOver Plain) : Plain c

/-- No literal of a param is a collection, in whatever command within it. -/
abbrev Param.Plain : Param → Prop := Param.PlainOver Command.Plain

theorem Line.closed_plain (line : Line) : line.Closed Param.Plain Command.Plain where
  literal h := .value h
  name _ := .variable _
  loopIndex := .loopIndex
  loopObject := .loopObject
  absent := .absent
  command h := .command h
  bindings _ h := .bindings h
  collection _ h := .collection h
  math hleft hright := .math hleft hright
  concat hleft hright := .concat hleft hright
  union hleft hright := .union hleft hright
  difference hleft hright := .difference hleft hright
  condition hleft hright := .condition hleft hright
  ambiguous hleft hright := .ambiguous hleft hright
  params _ _ hparams := .of_params hparams

/-- **No literal of a compiled script is a collection.** -/
theorem Script.compile_plain {registry : Registry} {sources : Sources} {script : Script}
    (h : compile registry sources = .ok script) {number : Nat} {c : Command}
    (hc : script.commandAt? number = some c) : c.Plain := by
  obtain ⟨text, hparse⟩ := compile_parse h hc
  exact Line.parse_reads (Line.closed_plain _) hparse

theorem Param.PlainOver.of_mem_commands {C : Command → Prop} {p : Param} (h : p.PlainOver C)
    {c : Command} (hc : c ∈ p.commands) : C c := by
  induction h with
  | value | «variable» | loopIndex | loopObject | absent => simp [Param.commands] at hc
  | command h =>
    rw [Param.commands, List.mem_singleton] at hc
    exact hc ▸ h
  | bindings _ ih =>
    obtain ⟨b, hb, hc⟩ := mem_bindingCommands.mp hc
    exact ih b hb hc
  | collection _ ih =>
    obtain ⟨item, hitem, hc⟩ := mem_itemCommands.mp hc
    exact ih item hitem hc
  | math _ _ ihl ihr | condition _ _ ihl ihr =>
    rcases List.mem_append.mp hc with hc | hc
    · exact ihl hc
    · obtain ⟨right, hright, hc⟩ := mem_operandCommands.mp hc
      exact ihr right hright hc
  | concat _ _ ihl ihr | union _ _ ihl ihr | difference _ _ ihl ihr | ambiguous _ _ ihl ihr =>
    rcases List.mem_append.mp hc with hc | hc
    · exact ihl hc
    · exact ihr hc

theorem Param.Plain.of_mem_parts {p q : Param} (h : p.Plain) (hq : q ∈ p.parts) : q.Plain := by
  cases h with
  | value | «variable» | loopIndex | loopObject | absent | command => cases hq
  | bindings h =>
    obtain ⟨b, hb, rfl⟩ := List.mem_map.mp hq
    exact h b hb
  | collection h => exact h q hq
  | math hleft hright | condition hleft hright =>
    rcases List.mem_cons.mp hq with rfl | hq
    · exact hleft
    · exact hright q (Option.mem_toList.mp hq)
  | concat hleft hright | union hleft hright | difference hleft hright
  | ambiguous hleft hright =>
    rcases List.mem_pair.mp hq with rfl | rfl
    · exact hleft
    · exact hright

theorem Param.Plain.part {p : Param} (h : p.Plain) (path : List Nat) : (p.part path).Plain :=
  Param.part_induction .absent (fun _ hp _ hq => hp.of_mem_parts hq) h path

namespace Command.Plain

variable {c : Command} (h : c.Plain)
include h

theorem param (index : Nat) : (c.param index).Plain := by
  obtain ⟨h⟩ := h
  unfold Command.param
  rw [List.getD_eq_getElem?_getD]
  cases hi : c.params[index]? with
  | some p => exact h p (List.mem_of_getElem? hi)
  | none => exact .absent

theorem inner {d : Command} (hd : d ∈ c.inner) : d.Plain := by
  obtain ⟨h⟩ := h
  obtain ⟨p, hp, hd⟩ := mem_itemCommands.mp hd
  exact (h p hp).of_mem_commands hd

end Command.Plain

/-! ### Typed cells -/

/-- Every cell holds a typed value. -/
def Memory.Typed (m : Memory) : Prop := ∀ cell, (m.read cell).Typed

namespace Memory.Typed

variable {m : Memory} {v : Value} (h : m.Typed) (hv : v.Typed)
include h

theorem of_cells {m' : Memory} (hcells : m'.cells = m.cells) : m'.Typed := by
  intro cell
  unfold Memory.read
  rw [hcells]
  exact h cell

include hv

theorem write (cell : CellId) : (m.write cell v).Typed := by
  intro other
  by_cases hother : other = cell
  · subst hother
    by_cases hlt : other < m.cells.size
    · rw [m.read_write other v hlt]
      exact hv
    · have hsame : m.write other v = m := by
        unfold Memory.write
        rw [Array.setIfInBounds_eq_of_size_le (Nat.le_of_not_lt hlt)]
      rw [hsame]
      exact h other
  · rw [m.read_write_of_ne cell v hother]
    exact h other

theorem newCell : (m.newCell v).2.Typed := by
  intro cell
  unfold Memory.read Memory.newCell
  rw [Array.getD_eq_getD_getElem?, Array.getElem?_push]
  split
  · exact hv
  · rw [← Array.getD_eq_getD_getElem?]
    exact h cell

theorem set (scope : ScopeId) (name : String) : (m.set scope name v).Typed := by
  rcases m.set_cases v scope name with ⟨cell, -, hset⟩ | ⟨-, hset⟩
  · rw [hset]
    exact h.write hv cell
  · rw [hset]
    exact (h.newCell hv).of_cells rfl

end Memory.Typed

/-- **A step of a run that leaves every cell typed.** -/
def TypedChange (registry : Registry) (s t : State) : Prop := Change registry s t ∧ t.memory.Typed

theorem typed_of_typedChanges {registry : Registry} {s t : State} (hs : s.memory.Typed)
    (h : ReflTransGen (TypedChange registry) s t) : t.memory.Typed := by
  cases h with
  | refl => exact hs
  | tail _ hstep => exact hstep.2

namespace Run

variable {α β : Type} {registry : Registry} {Q : α → Prop}

/-- **A run keeps cells typed at every step, and its results have a property**, if it starts where
they are typed. -/
def Keeps (registry : Registry) (m : Run α) (Q : α → Prop) : Prop :=
  ∀ s, s.memory.Typed → ReflTransGen (TypedChange registry) s (m.after s) ∧
    ∀ a t, m s = .ok a t → Q a

theorem Keeps.mono {m : Run α} {P : α → Prop} (h : m.Keeps registry P) (hpq : ∀ a, P a → Q a) :
    m.Keeps registry Q := fun s hs =>
  ⟨(h s hs).1, fun a t hm => hpq a ((h s hs).2 a t hm)⟩

theorem Keeps.typed {m : Run α} (h : m.Keeps registry Q) {s t : State} {a : α}
    (hs : s.memory.Typed) (hm : m s = .ok a t) : t.memory.Typed := by
  have hsteps := (h s hs).1
  rw [after_of_ok hm] at hsteps
  exact typed_of_typedChanges hs hsteps

theorem Keeps.bind_of {m : Run α} {f : α → Run β} {P : β → Prop} (hm : m.Keeps registry Q)
    (hf : ∀ a, m.Returns a → Q a → (f a).Keeps registry P) : (m >>= f).Keeps registry P := by
  intro s hs
  have hnext : ∀ a t, m s = .ok a t → (f a).Keeps registry P ∧ t.memory.Typed := fun a t ha =>
    ⟨hf a ⟨s, t, ha⟩ ((hm s hs).2 a t ha), hm.typed hs ha⟩
  refine ⟨steps_bind (hm s hs).1 fun a t ha _ => ?_, fun b u hb => ?_⟩
  · exact ((hnext a t ha).1 t (hnext a t ha).2).1
  · obtain ⟨a, t, ha, hb⟩ := bind_eq_ok hb
    exact ((hnext a t ha).1 t (hnext a t ha).2).2 b u hb

theorem Keeps.bind {m : Run α} {f : α → Run β} {P : β → Prop} (hm : m.Keeps registry Q)
    (hf : ∀ a, Q a → (f a).Keeps registry P) : (m >>= f).Keeps registry P :=
  hm.bind_of fun a _ => hf a

/-- A run that leaves the state as it is. -/
theorem keeps_of_same {m : Run α} (hsame : ∀ s, m.after s = s)
    (hret : ∀ s, s.memory.Typed → ∀ a t, m s = .ok a t → Q a) : m.Keeps registry Q := by
  intro s hs
  rw [hsame]
  exact ⟨.refl, hret s hs⟩

theorem keeps_pure {a : α} (h : Q a) : (pure a : Run α).Keeps registry Q := by
  refine keeps_of_same (fun s => rfl) fun s _ b t hb => ?_
  cases hb
  exact h

theorem keeps_stop (stop : Stop) : (throw stop : Run α).Keeps registry Q := by
  refine keeps_of_same (fun s => rfl) fun s _ b t hb => ?_
  cases hb

theorem keeps_ofExcept (line : Nat) {e : Except Cause α} (h : ∀ a, e = .ok a → Q a) :
    (ofExcept line e).Keeps registry Q := by
  cases e with
  | ok a => exact keeps_pure (h a rfl)
  | error cause => exact keeps_stop _

theorem Keeps.atLine {m : Run α} (h : m.Keeps registry Q) (line : Nat) :
    (m.atLine line).Keeps registry Q := by
  intro s hs
  rw [after_atLine]
  exact ⟨(h s hs).1, fun a t ha => (h s hs).2 a t (atLine_eq_ok ha)⟩

/-- A fault that is looked at leaves cells typed. -/
theorem Keeps.attempt {m : Run α} (h : m.Keeps registry Q) :
    m.attempt.Keeps registry fun r => ∀ a, r = .ok a → Q a := by
  intro s hs
  rw [after_attempt]
  refine ⟨(h s hs).1, fun r t hr a ha => ?_⟩
  subst ha
  cases hm : m s with
  | ok b u =>
    rw [attempt_of_ok hm] at hr
    cases hr
    exact (h s hs).2 a t hm
  | error e u =>
    cases e with
    | fault f => cases (attempt_of_fault hm).symm.trans hr
    | outOfFuel => cases (attempt_of_outOfFuel hm).symm.trans hr

theorem keeps_read (cell : CellId) : (read cell).Keeps registry Value.Typed := by
  refine keeps_of_same (fun s => rfl) fun s hs v t hv => ?_
  cases hv
  exact hs cell

theorem Keeps.of_returns {m : Run α} (h : m.Keeps registry fun _ => True)
    (hq : ∀ a, m.Returns a → Q a) : m.Keeps registry Q := fun s hs =>
  ⟨(h s hs).1, fun a t ha => hq a ⟨s, t, ha⟩⟩

/-! ### Single steps -/

/-- A run that is a single step. -/
theorem keeps_step {m : Run Unit}
    (h : ∀ s, s.memory.Typed → TypedChange registry s (m.after s)) :
    m.Keeps registry fun _ => True :=
  fun s hs => ⟨.single (h s hs), fun _ _ _ => trivial⟩

theorem keeps_bindName (scope : ScopeId) (name : String) (cell : CellId) :
    (Run.bind scope name cell).Keeps registry fun _ => True :=
  keeps_step fun s hs => ⟨.bind s scope name cell, hs.of_cells rfl⟩

theorem keeps_newScope : newScope.Keeps registry fun _ => True :=
  fun s hs => ⟨.single ⟨.newScope s, hs.of_cells rfl⟩, fun _ _ _ => trivial⟩

theorem keeps_note (entry : LogEntry) : (note entry).Keeps registry fun _ => True :=
  keeps_step fun s hs => ⟨.note s entry, hs⟩

theorem keeps_unassign (tier : Tier) (scope : ScopeId) (id name : String) :
    (Run.unassign tier scope id name).Keeps registry fun _ => True :=
  keeps_step fun s hs =>
    ⟨.unassign s tier scope id name, hs.of_cells (s.cells_unassign tier scope id name)⟩

section Value

variable {v : Value} (hv : v.Typed)
include hv

theorem keeps_write (cell : CellId) : (write cell v).Keeps registry fun _ => True :=
  keeps_step fun s hs => ⟨.write s cell v, hs.write hv cell⟩

theorem keeps_setIn (scope : ScopeId) (name : String) :
    (setIn scope name v).Keeps registry fun _ => True :=
  keeps_step fun s hs => ⟨.set s scope name v, hs.set hv scope name⟩

theorem keeps_assign (tier : Tier) (scope : ScopeId) (id name : String) :
    (Run.assign registry tier scope id name v).Keeps registry fun _ => True := by
  intro s hs
  refine ⟨steps_assign fun t ht => ⟨.assign ht, ?_⟩, fun _ _ _ => trivial⟩
  rcases State.assign_cases ht with ⟨cell, -, rfl⟩ | ⟨-, -, rfl⟩
  · exact hs.write hv cell
  · exact (hs.newCell hv).of_cells (State.cells_place _ _ _ _ _ _)

end Value

theorem keeps_choice (ctx : Context) (place : Occurrence) (left : StageScript.Value) :
    (ctx.choice place left).Keeps registry fun _ => True := fun s hs =>
  ⟨steps_choice ctx place left fun choice => ⟨.choose s place choice, hs⟩, fun _ _ _ => trivial⟩

/-- A run keeps cells typed, whatever its results are. The relation is about the first run
alone. -/
def StaysTyped (registry : Registry) (α : Type) (m _m' : Run α) : Prop :=
  m.Keeps registry fun _ => True

theorem keeps_quiet (registry : Registry) : Quiet (StaysTyped registry) where
  pure _ := keeps_pure trivial
  fail _ _ := keeps_stop _
  bind hm hf := hm.bind_of fun a ha _ => hf a ha
  memory := keeps_of_same (fun _ => rfl) fun _ _ _ _ _ => trivial
  lookUp _ _ := keeps_of_same (fun _ => rfl) fun _ _ _ _ _ => trivial
  operate ctx place left _ _ hr := (keeps_choice ctx place left).bind fun _ _ =>
    hr.bind fun _ _ => keeps_ofExcept _ fun _ _ => trivial

end Run

/-! ### Results -/

/-- The values an exit hands on are typed. -/
def Exit.Typed : Exit → Prop
  | .returned v | .returnedAll v => v.Typed
  | .completed last => ∀ v ∈ last, v.Typed
  | .ended | .wentBack => True

/-- The values a signal carries are typed. -/
def Signal.Typed : Signal → Prop
  | .returnValue v | .returnAll v => v.Typed
  | .exit how => how.Typed
  | .endAll | .goBack => True

/-- The value, or those of the signal, are typed. -/
def Settled.Typed : Settled → Prop
  | .value v => v.Typed
  | .signal s => s.Typed

/-- What a command hands back is typed; a command to be run in its place has plain literals. -/
def Outcome.Typed : Outcome → Prop
  | .value v => v.Typed
  | .tailCall c => c.Plain
  | .jump _ => True
  | .signal s => s.Typed

open Run

/-! ### Evaluation -/

namespace Context

variable {program : Program} {settle : Settle} {ctx : Context} {registry : Registry}

theorem keeps_fail {α : Type} {Q : α → Prop} (cause : Cause) :
    (ctx.fail cause : Run α).Keeps registry Q := keeps_stop _

theorem keeps_resolve (name : String) : (ctx.resolve name).Keeps registry fun _ => True :=
  (keeps_quiet registry).resolve name

theorem keeps_directoryObject (element : ElementKind) (key : String) :
    (ctx.directoryObject program element key).Keeps registry Value.Typed := by
  unfold directoryObject
  split
  · exact keeps_pure (.object _)
  · exact keeps_fail _

theorem keeps_typed (element : ElementKind) {items : List Value} (h : ∀ v ∈ items, v.Typed) :
    (ctx.typed element items).Keeps registry Value.Typed := by
  unfold typed
  split
  · next c hc => exact keeps_pure (Collection.typed_typed h hc)
  · exact keeps_stop _

theorem keeps_allObjects (element : ElementKind) :
    (ctx.allObjects program element).Keeps registry Value.Typed := by
  unfold allObjects
  split
  · refine keeps_typed element fun v hv => ?_
    obtain ⟨o, -, rfl⟩ := List.mem_map.mp hv
    exact .object _
  · exact keeps_fail _

theorem keeps_itemValue (element : ElementKind) {v : Value} (h : v.Typed) :
    (ctx.itemValue program element v).Keeps registry Value.Typed := by
  unfold itemValue
  split
  · split
    · exact keeps_directoryObject _ _
    · exact keeps_pure h
  · exact keeps_pure h

theorem keeps_truth (connected : Bool) (v : Value) :
    (ctx.truth connected v).Keeps registry fun _ => True :=
  (keeps_quiet registry).truth connected v

theorem keeps_truthValue (connected : Bool) (v : Value) (f : Bool → Bool) :
    (do let b ← ctx.truth connected v; return .boolean (f b) : Run Value).Keeps registry
      Value.Typed :=
  (keeps_truth connected v).bind fun _ _ => keeps_pure (.boolean _)

theorem keeps_evaluateItems {element : ElementKind} {items : List Param}
    (h : ∀ p ∈ items, (evaluate program settle ctx p).Keeps registry Value.Typed) :
    (evaluateItems program settle ctx element items).Keeps registry
      fun vs => ∀ v ∈ vs, v.Typed := by
  induction items with
  | nil =>
    simp only [evaluateItems]
    exact keeps_pure (by simp)
  | cons item items ih =>
    simp only [evaluateItems]
    have hitem := h item List.mem_cons_self
    have hitems := ih fun p hp => h p (List.mem_cons_of_mem _ hp)
    have hbare : (ctx.bareObject? element item).Keeps registry fun _ => True :=
      (keeps_quiet registry).bareObject? element item
    refine hbare.bind fun key _ => ?_
    have hrest : ∀ {m : Run Value}, m.Keeps registry Value.Typed →
        (do let v ← m
            let vs ← evaluateItems program settle ctx element items
            return v :: vs : Run (List Value)).Keeps registry fun vs => ∀ v ∈ vs, v.Typed :=
      fun hm => hm.bind fun v hv => hitems.bind fun vs hvs =>
        keeps_pure (List.forall_mem_cons.mpr ⟨hv, hvs⟩)
    cases key with
    | some key => exact hrest (keeps_directoryObject element key)
    | none => exact hitem.bind fun v hv => hrest (keeps_itemValue element hv)

theorem keeps_evaluateOption {right : Option Param}
    (h : ∀ p ∈ right, (evaluate program settle ctx p).Keeps registry Value.Typed) :
    (evaluateOption program settle ctx right).Keeps registry Value.Typed := by
  cases right with
  | none =>
    simp only [evaluateOption]
    exact keeps_pure .unit
  | some p =>
    simp only [evaluateOption]
    exact h p rfl

/-- **Evaluating a param with plain literals gives a typed value**, if settling the commands in it
does. -/
theorem keeps_evaluate {C : Command → Prop} {p : Param}
    (hs : ∀ c, C c → (settle ctx c).Keeps registry Settled.Typed) (hp : p.PlainOver C) :
    (evaluate program settle ctx p).Keeps registry Value.Typed := by
  induction hp with
  | value h =>
    simp only [evaluate]
    exact keeps_pure (.scalar h)
  | «variable» name =>
    simp only [evaluate]
    exact (keeps_resolve name).bind fun cell _ => keeps_read cell
  | loopIndex =>
    simp only [evaluate]
    split
    · exact keeps_pure (.number _)
    · exact keeps_fail _
  | loopObject | bindings =>
    simp only [evaluate]
    exact keeps_fail _
  | absent =>
    simp only [evaluate]
    exact keeps_pure .unit
  | command hc =>
    simp only [evaluate]
    refine (hs _ hc).bind fun settled hsettled => ?_
    cases settled with
    | value v => exact keeps_pure hsettled
    | signal s => exact keeps_fail _
  | @collection element bare all items _ ih =>
    simp only [evaluate]
    split
    · exact keeps_allObjects element
    · refine (keeps_evaluateItems ih).bind fun values hvalues => ?_
      split
      · exact keeps_pure (hvalues _ (List.mem_singleton_self _))
      · exact keeps_typed element hvalues
  | math _ _ ihl ihr =>
    simp only [evaluate]
    exact ihl.bind fun x _ => (keeps_evaluateOption ihr).bind fun y _ =>
      keeps_ofExcept _ fun _ => Operator.math_typed
  | concat _ _ ihl ihr =>
    simp only [evaluate]
    exact ihl.bind fun x _ => ihr.bind fun y _ => keeps_ofExcept _ fun _ => Operator.concat_typed
  | union _ _ ihl ihr =>
    simp only [evaluate]
    exact ihl.bind fun x hx => ihr.bind fun y hy =>
      keeps_ofExcept _ fun _ => Operator.union_typed hx hy
  | difference _ _ ihl ihr =>
    simp only [evaluate]
    exact ihl.bind fun x hx => ihr.bind fun y _ =>
      keeps_ofExcept _ fun _ => Operator.difference_typed hx
  | ambiguous _ _ ihl ihr =>
    simp only [evaluate]
    exact ihl.bind fun x hx => (keeps_choice ctx _ x).bind fun choice _ => ihr.bind fun y hy =>
      keeps_ofExcept _ fun _ => Operator.apply_typed hx hy
  | @condition comparator left right _ _ ihl ihr =>
    have hr := keeps_evaluateOption ihr
    have hboolean : ∀ b : Bool, (pure (.boolean b) : Run Value).Keeps registry Value.Typed :=
      fun b => keeps_pure (.boolean b)
    cases comparator with
    | identity =>
      simp only [evaluate]
      exact ihl.bind fun x _ => keeps_truthValue false x id
    | not =>
      simp only [evaluate]
      exact ihl.bind fun x _ => keeps_truthValue false x not
    | and =>
      simp only [evaluate]
      refine ihl.bind fun x _ => (keeps_truth true x).bind fun b _ => ?_
      split
      · exact hr.bind fun y _ => keeps_truthValue true y id
      · exact hboolean false
    | or =>
      simp only [evaluate]
      refine ihl.bind fun x _ => (keeps_truth true x).bind fun b _ => ?_
      split
      · exact hboolean true
      · exact hr.bind fun y _ => keeps_truthValue true y id
    | equals =>
      simp only [evaluate]
      have hsame : (ctx.sameCell left (right.getD .absent)).Keeps registry fun _ => True :=
        (keeps_quiet registry).sameCell _ _
      refine hsame.bind fun b _ => ?_
      split
      · exact hboolean true
      · exact ihl.bind fun x _ => hr.bind fun y _ => hboolean _
    | greaterThan | lessThan =>
      simp only [evaluate]
      exact ihl.bind fun x _ => hr.bind fun y _ =>
        (keeps_ofExcept (Q := fun _ => True) _ fun _ _ => trivial).bind fun b _ => hboolean b

/-! ### Refused operations -/

section Refused

variable {left right : Param} {s t u w : State} {x y : Value} {e : Stop}

theorem state_of_ofExcept {α : Type} {r : Except Cause α} (h : ofExcept ctx.line r s = .error e t) :
    t = s :=
  (after_of_error h).symm.trans (after_ofExcept ctx.line r)

/-- A union that is refused leaves the state as its operands do. -/
theorem state_of_union_refused (hx : evaluate program settle ctx left s = .ok x t)
    (hy : evaluate program settle ctx right t = .ok y u)
    (h : evaluate program settle ctx (.union left right) s = .error e w) : w = u := by
  simp only [evaluate] at h
  rw [bind_of_ok hx, bind_of_ok hy] at h
  exact state_of_ofExcept h

/-- So does an operator that was chosen between its operands. -/
theorem state_of_ambiguous_refused {place : Occurrence} {choice : Choice} {t' : State}
    (hx : evaluate program settle ctx left s = .ok x t)
    (hchoice : ctx.choice place x t = .ok choice t')
    (hy : evaluate program settle ctx right t' = .ok y u)
    (h : evaluate program settle ctx (.ambiguous place left right) s = .error e w) : w = u := by
  simp only [evaluate] at h
  rw [bind_of_ok hx, bind_of_ok hchoice, bind_of_ok hy] at h
  exact state_of_ofExcept h

/-- A literal that is refused leaves the state as its items do. -/
theorem state_of_collection_refused {element : ElementKind} {bare : Bool} {items : List Param}
    {values : List Value}
    (hvalues : evaluateItems program settle ctx element items s = .ok values t)
    (h : evaluate program settle ctx (.collection element bare false items) s = .error e w) :
    w = t := by
  simp only [evaluate, Bool.false_eq_true, if_false] at h
  rw [bind_of_ok hvalues] at h
  refine (after_of_error h).symm.trans ?_
  split
  · rfl
  · unfold typed
    split <;> rfl

end Refused

end Context

end StageScript
