import Mathlib.Logic.Relation
import StageScript.Proofs.Engine.Settle

/-!
# What a run can do to the state

A run changes the state only by the steps of `Change`: writing into a cell, binding or setting a
name of a scope, making a scope, setting or removing a variable of a tier, keeping the meaning of an
operator, and appending to the log. So what every such step keeps is kept by evaluating a param
(`evaluate_changes`), by settling a command (`settle_changes`) and by a whole run
(`runWithin_changes`), whether it ends with a result or with a fault.
-/

namespace StageScript

open Relation (ReflTransGen)

/-- **One step of a run, as a change of the state.** -/
inductive Change (registry : Registry) : State → State → Prop
  | write (s : State) (cell : CellId) (v : Value) :
    Change registry s { s with memory := s.memory.write cell v }
  | bind (s : State) (scope : ScopeId) (name : String) (cell : CellId) :
    Change registry s { s with memory := s.memory.bind scope name cell }
  | set (s : State) (scope : ScopeId) (name : String) (v : Value) :
    Change registry s { s with memory := s.memory.set scope name v }
  | newScope (s : State) : Change registry s { s with memory := s.memory.newScope.2 }
  | assign {s s' : State} {tier : Tier} {scope : ScopeId} {id name : String} {v : Value}
    (h : s.assign registry tier scope id name v = .ok s') : Change registry s s'
  | unassign (s : State) (tier : Tier) (scope : ScopeId) (id name : String) :
    Change registry s (s.unassign tier scope id name)
  | choose (s : State) (place : Occurrence) (choice : Choice) :
    Change registry s (s.choose place choice)
  | note (s : State) (entry : LogEntry) : Change registry s (s.note entry)

/-- Any number of steps. -/
abbrev Changes (registry : Registry) : State → State → Prop := ReflTransGen (Change registry)

/-! ### Runs made of steps of one kind -/

namespace Run

variable {step : State → State → Prop} {registry : Registry} {α β : Type} {m : Run α} {s : State}

/-- One run after another. -/
theorem steps_bind {f : α → Run β} (hm : ReflTransGen step s (m.after s))
    (hf : ∀ a t, m s = .ok a t → ReflTransGen step s t → ReflTransGen step t ((f a).after t)) :
    ReflTransGen step s ((m >>= f).after s) := by
  cases h : m s with
  | ok a t =>
    rw [after_of_ok h] at hm
    rw [after_bind_of_ok h]
    exact hm.trans (hf a t h hm)
  | error e t =>
    rw [after_of_error h] at hm
    rw [after_of_error (bind_of_error h)]
    exact hm

theorem steps_assign {tier : Tier} {scope : ScopeId} {id name : String} {v : Value}
    (h : ∀ t, s.assign registry tier scope id name v = .ok t → step s t) :
    ReflTransGen step s ((Run.assign registry tier scope id name v).after s) := by
  cases ha : s.assign registry tier scope id name v with
  | ok t =>
    rw [after_of_ok (assign_of_ok ha)]
    exact .single (h t ha)
  | error f => rw [after_of_error (assign_of_error ha)]

theorem steps_choice (ctx : Context) (place : Occurrence) (left : Value)
    (h : ∀ choice, step s (s.choose place choice)) :
    ReflTransGen step s ((ctx.choice place left).after s) := by
  cases hknown : s.choice? place with
  | some choice => rw [after_of_ok (choice_of_some ctx hknown)]
  | none =>
    cases hc : Operator.choose place.operator left with
    | ok choice =>
      rw [after_of_ok (choice_of_none ctx hknown hc)]
      exact .single (h choice)
    | error cause => rw [after_of_error (choice_of_error ctx hknown hc)]

theorem after_ofExcept (line : Nat) (e : Except Cause α) : (ofExcept line e).after s = s := by
  cases e <;> rfl

end Run

/-- A run does nothing but such steps. The relation is about the first run alone. -/
def Stepwise (registry : Registry) (α : Type) (m _m' : Run α) : Prop :=
  ∀ s, Changes registry s (m.after s)

namespace Stepwise

variable {registry : Registry} {α β : Type} {m m' : Run α} {s : State}

theorem of_step (h : ∀ s, Change registry s (m.after s)) : Stepwise registry α m m' :=
  fun s => .single (h s)

theorem of_refl (h : ∀ s, m.after s = s) : Stepwise registry α m m' := by
  intro s
  rw [h]

theorem bind {f f' : α → Run β} (hm : Stepwise registry α m m')
    (hf : ∀ a, m.Returns a → Stepwise registry β (f a) (f' a)) :
    Stepwise registry β (m >>= f) (m' >>= f') := fun s =>
  Run.steps_bind (hm s) fun a t h _ => hf a ⟨s, t, h⟩ t

theorem choice (ctx : Context) (place : Occurrence) (left : Value) :
    Stepwise registry Choice (ctx.choice place left) (ctx.choice place left) := fun s =>
  Run.steps_choice ctx place left fun choice => .choose s place choice

/-- **Every run is made of such steps.** -/
theorem congruence (registry : Registry) : Congruence registry (Stepwise registry) where
  pure a := of_refl fun s => rfl
  fail f _ := of_refl fun s => rfl
  bind := bind
  raise f := of_refl fun s => rfl
  hosts := .inr fun hm s => by
    rw [Run.after_attempt]
    exact hm s
  log := of_refl fun s => rfl
  stores := of_refl fun s => rfl
  atLine line hm s := by
    rw [Run.after_atLine]
    exact hm s
  memory := of_refl fun s => rfl
  lookUp ctx name := of_refl fun s => rfl
  operate ctx place left _ _ hr :=
    bind (choice ctx place left) fun _ _ => bind hr fun _ _ =>
      of_refl fun _ => Run.after_ofExcept _ _
  write cell v := of_step fun s => .write s cell v
  bindName scope name cell := of_step fun s => .bind s scope name cell
  setIn scope name v := of_step fun s => .set s scope name v
  newScope := of_step fun s => .newScope s
  note entry := of_step fun s => .note s entry
  assign tier scope id name v s := Run.steps_assign fun _ h => .assign h
  unassign tier scope id name := of_step fun s => .unassign s tier scope id name

theorem lax : Lax (Stepwise registry) := fun _ => of_refl fun _ => rfl

end Stepwise

variable (program : Program) (fuel : Nat)

theorem settle_changes (ctx : Context) (c : Command) (s : State) :
    Changes program.registry s ((settle program fuel ctx c).after s) :=
  (Stepwise.congruence program.registry).settle_of_lax Stepwise.lax (Nat.le_refl fuel) ctx c s

theorem evaluate_changes (ctx : Context) (p : Param) (s : State) :
    Changes program.registry s ((evaluate program (settle program fuel) ctx p).after s) := by
  have h : Stepwise program.registry Value (evaluate program (settle program fuel) ctx p)
      (evaluate program (settle program fuel) ctx p) :=
    (Stepwise.congruence program.registry).evaluate p fun c _ => settle_changes program fuel ctx c
  exact h s

theorem runWithin_changes (request : Request) (s : State) :
    Changes program.registry s ((program.runWithin fuel request).after s) :=
  (Stepwise.congruence program.registry).runWithin_of_lax Stepwise.lax (Nat.le_refl fuel) request s

end StageScript
