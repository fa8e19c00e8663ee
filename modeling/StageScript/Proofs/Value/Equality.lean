import Mathlib
import StageScript.Proofs.Json.RoundTrip

/-!
# Equality of values

Scripts compare values by an equality of their own: numbers as floats, so that the two zeros are
equal and not-a-number differs from itself, and collections item by item, whatever they admit. It is
symmetric and transitive on all values (`PartialEquivBEq Value`), as the equality of floats is. A
value is equal to itself exactly if no number in it, at whatever depth, is undefined
(`Value.beq_self_iff`).
-/

namespace StageScript

namespace Number

instance : PartialEquivBEq Number where
  symm {a b} h := by
    show (b.float == a.float) = true
    exact BEq.symm h
  trans {a b c} hab hbc := by
    show (a.float == c.float) = true
    exact BEq.trans (b := b.float) hab hbc

theorem beq_self_iff (a : Number) : (a == a) = true ↔ a.float.isNaN = false := by
  show (a.float == a.float) = true ↔ _
  rw [Float.beq_self_iff, Float.isNaN_eq_decide_eq_nan, decide_eq_false_iff_not]

end Number

namespace Value

mutual

theorem equal_symm : ∀ {v w : Value}, equal v w = true → equal w v = true
  | .unit, .unit, _ => rfl
  | .boolean _, .boolean _, h | .number _, .number _, h | .text _, .text _, h
  | .object _, .object _, h => by
    rw [equal] at h ⊢
    exact BEq.symm h
  | .collection _ _, .collection _ _, h => by
    rw [equal] at h ⊢
    exact equalItems_symm h

theorem equalItems_symm : ∀ {vs ws : List Value}, equalItems vs ws = true →
    equalItems ws vs = true
  | [], [], _ => rfl
  | _ :: _, _ :: _, h => by
    rw [equalItems, Bool.and_eq_true] at h ⊢
    exact ⟨equal_symm h.1, equalItems_symm h.2⟩

end

mutual

theorem equal_trans : ∀ {u v w : Value}, equal u v = true → equal v w = true →
    equal u w = true
  | .unit, .unit, .unit, _, _ => rfl
  | .boolean _, .boolean _, .boolean _, h, h' | .number _, .number _, .number _, h, h'
  | .text _, .text _, .text _, h, h' | .object _, .object _, .object _, h, h' => by
    rw [equal] at h h' ⊢
    exact BEq.trans h h'
  | .collection _ _, .collection _ _, .collection _ _, h, h' => by
    rw [equal] at h h' ⊢
    exact equalItems_trans h h'

theorem equalItems_trans : ∀ {us vs ws : List Value}, equalItems us vs = true →
    equalItems vs ws = true → equalItems us ws = true
  | [], [], [], _, _ => rfl
  | _ :: _, _ :: _, _ :: _, h, h' => by
    rw [equalItems, Bool.and_eq_true] at h h' ⊢
    exact ⟨equal_trans h.1 h'.1, equalItems_trans h.2 h'.2⟩

end

instance : PartialEquivBEq Value where
  symm := equal_symm
  trans := equal_trans

/-- No number in the value is undefined. -/
def Defined (v : Value) : Prop := ∀ n ∈ v.numbers, n.float.isNaN = false

instance (v : Value) : Decidable v.Defined :=
  inferInstanceAs (Decidable (∀ n ∈ v.numbers, n.float.isNaN = false))

mutual

theorem equal_self_iff : ∀ v : Value,
    equal v v = true ↔ ∀ n ∈ v.numbers, n.float.isNaN = false
  | .unit | .boolean _ | .text _ | .object _ => by simp [equal, numbers]
  | .number n => by simp [equal, numbers, Number.beq_self_iff]
  | .collection _ items => by
    rw [equal, numbers]
    exact equalItems_self_iff items

theorem equalItems_self_iff : ∀ vs : List Value,
    equalItems vs vs = true ↔ ∀ n ∈ numbersOf vs, n.float.isNaN = false
  | [] => by simp [equalItems, numbersOf]
  | v :: vs => by
    rw [equalItems, Bool.and_eq_true, equal_self_iff v, equalItems_self_iff vs, numbersOf,
      List.forall_mem_append]

end

/-- A value equals itself unless one of its numbers is undefined. -/
theorem beq_self_iff (v : Value) : (v == v) = true ↔ v.Defined := equal_self_iff v

end Value

end StageScript
