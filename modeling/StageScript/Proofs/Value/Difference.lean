import StageScript.Proofs.Value.Equality
import StageScript.Proofs.Value.Typed

/-!
# The difference of collections

The difference takes, for each item on the right, the first equal item off the left. On equal items
this is subtraction: of every value as many are left as the left has more than the right
(`count_without`). So the order of the right does not matter (`without_of_perm`), and what was added
at the end can be taken off again, up to which of several equal items stays
(`without_append_sameItems`). The last needs items that equal themselves: two lists with as many
items equal to each value are then the same up to order and equality (`sameItems_of_count`).

The lemmas are about any type whose equality is symmetric and transitive; that of values is no more.
-/

namespace StageScript

namespace Collection

section Lists

variable {α : Type} [BEq α]

/-- The list without the first item equal to each of those removed, one after the other. -/
def without (l removed : List α) : List α :=
  removed.foldl (fun rest item => rest.eraseP (· == item)) l

/-- The same items up to their order and equality. -/
def SameItems (l l' : List α) : Prop :=
  ∃ m, l.Perm m ∧ List.Forall₂ (fun v w => (v == w) = true) m l'

theorem without_sublist (l removed : List α) : (without l removed).Sublist l := by
  induction removed generalizing l with
  | nil => exact List.Sublist.refl l
  | cons item removed ih => exact (ih _).trans List.eraseP_sublist

variable [PartialEquivBEq α]

theorem count_eraseP (l : List α) (item x : α) :
    (l.eraseP (· == item)).count x = l.count x - if item == x then 1 else 0 := by
  induction l with
  | nil => simp
  | cons v l ih =>
    by_cases hv : (v == item) = true
    · rw [List.eraseP_cons_of_pos (p := (· == item)) hv, List.count_cons, BEq.congr_left hv]
      omega
    · rw [List.eraseP_cons_of_neg (p := (· == item)) hv, List.count_cons, ih, List.count_cons]
      by_cases hx : (item == x) = true
      · -- what equals `x` as the item does would equal the item
        have hne : ¬(v == x) = true := fun h => hv (BEq.trans h (BEq.symm hx))
        simp [hx, hne]
      · simp [hx]

/-- The difference subtracts the numbers of equal items. -/
theorem count_without (l removed : List α) (x : α) :
    (without l removed).count x = l.count x - removed.count x := by
  induction removed generalizing l with
  | nil => simp [without]
  | cons item removed ih =>
    calc (without l (item :: removed)).count x
        = (without (l.eraseP (· == item)) removed).count x := rfl
      _ = l.count x - (if item == x then 1 else 0) - removed.count x := by
          rw [ih, count_eraseP]
      _ = l.count x - (item :: removed).count x := by
          rw [List.count_cons]
          omega

/-- Two removals commute: equal items remove the same, and others remove different items. -/
theorem eraseP_right_comm (l : List α) (item item' : α) :
    (l.eraseP (· == item)).eraseP (· == item') = (l.eraseP (· == item')).eraseP (· == item) := by
  by_cases h : (item == item') = true
  · have hsame : (fun v => v == item) = fun v => v == item' := funext fun v => BEq.congr_right h
    rw [hsame]
  · refine List.eraseP_comm fun v _ => ?_
    by_contra! hboth
    exact h (BEq.trans (BEq.symm hboth.1) hboth.2)

theorem without_of_perm {removed removed' : List α} (h : removed.Perm removed') (l : List α) :
    without l removed = without l removed' :=
  have : RightCommutative fun (rest : List α) item => rest.eraseP (· == item) :=
    ⟨eraseP_right_comm⟩
  h.foldl_eq l

/-- Lists of self-equal items with the same numbers of equal items have the same items. -/
theorem sameItems_of_count : ∀ {l' l : List α}, (∀ v ∈ l, (v == v) = true) →
    (∀ v ∈ l', (v == v) = true) → (∀ x, l.count x = l'.count x) → SameItems l l'
  | [], l, hl, _, hcount => by
    have hnil : l = [] := List.eq_nil_iff_forall_not_mem.mpr fun v hv =>
      List.countP_eq_zero.mp (hcount v) v hv (hl v hv)
    subst hnil
    exact ⟨[], .refl _, .nil⟩
  | item :: l', l, hl, hl', hcount => by
    obtain ⟨v, hv, hvi⟩ : ∃ v ∈ l, (v == item) = true := by
      refine List.countP_pos_iff.mp (?_ : 0 < l.count item)
      rw [hcount, List.count_cons, if_pos (hl' item List.mem_cons_self)]
      omega
    obtain ⟨w, l₁, l₂, -, hwi, rfl, -⟩ := List.exists_of_eraseP (p := (· == item)) hv hvi
    -- without the two equal items the numbers still agree
    have hrest : SameItems (l₁ ++ l₂) l' := by
      have hsub : (l₁ ++ l₂).Sublist (l₁ ++ w :: l₂) := (List.sublist_cons_self w l₂).append_left l₁
      refine sameItems_of_count (fun v hv => hl v (hsub.subset hv))
        (fun v hv => hl' v (List.mem_cons_of_mem _ hv)) fun x => ?_
      have hx := hcount x
      rw [List.count_append, List.count_cons, List.count_cons, BEq.congr_left hwi] at hx
      rw [List.count_append]
      omega
    obtain ⟨m, hperm, hsame⟩ := hrest
    exact ⟨w :: m, List.perm_middle.trans (hperm.cons w), .cons hwi hsame⟩

/-- What was added at the end can be taken off again. -/
theorem without_append_sameItems {l added : List α} (hl : ∀ v ∈ l, (v == v) = true)
    (hadded : ∀ v ∈ added, (v == v) = true) : SameItems (without (l ++ added) added) l := by
  refine sameItems_of_count (fun v hv => ?_) hl fun x => ?_
  · rcases List.mem_append.mp ((without_sublist _ _).subset hv) with h | h
    · exact hl v h
    · exact hadded v h
  · rw [count_without, List.count_append]
    omega

end Lists

/-- **The difference of collections is subtraction.** Of every value as many equal items are left as
the left has more than the right. They stand as they stood on the left, under its constraint, in
whatever order the right lists its own. And where no number is undefined, what a union adds to a
collection the difference takes off again. -/
theorem difference_subtracts (a b : Collection) :
    (∀ x, (a.difference b).items.count x = a.items.count x - b.items.count x) ∧
      (a.difference b).items.Sublist a.items ∧ (a.difference b).element = a.element ∧
      (∀ b' : Collection, b'.items.Perm b.items → a.difference b' = a.difference b) ∧
      ((∀ v ∈ a.items ++ b.items, v.Defined) → ∀ c, a.union b = .ok c →
        SameItems (c.difference b).items a.items) := by
  refine ⟨count_without a.items b.items, without_sublist a.items b.items, rfl, ?_, ?_⟩
  · intro b' hperm
    exact congrArg (Collection.mk a.element) (without_of_perm hperm a.items)
  · intro hdefined c hc
    obtain ⟨rfl, -⟩ := extend_eq_ok hc
    have hself (v : Value) (hv : v ∈ a.items ++ b.items) : (v == v) = true :=
      v.beq_self_iff.mpr (hdefined v hv)
    exact without_append_sameItems (fun v hv => hself v (List.mem_append_left _ hv))
      fun v hv => hself v (List.mem_append_right _ hv)

/-- Two zeros, a number twice, a collection of numbers and a text. -/
def shelf : Collection :=
  ⟨.any, [.ofFloat 0, .ofFloat 1, .collection .number [.ofFloat 1], .text "A", .ofFloat 1,
    .ofFloat (-0)]⟩

/-- A zero, something that is not on the shelf, and a collection without a constraint. -/
def order : Collection := ⟨.any, [.ofFloat (-0), .ofFloat 7, .collection .any [.ofFloat 1]]⟩

theorem difference_subtracts_order :
    (∀ v ∈ shelf.items ++ order.items, v.Defined) ∧
      shelf.union order = .ok ⟨.any, shelf.items ++ order.items⟩ ∧
      (shelf.difference order).items.count (.ofFloat 0) = 2 - 1 ∧
      shelf.difference ⟨.any, order.items.reverse⟩ = shelf.difference order ∧
      SameItems ((⟨.any, shelf.items ++ order.items⟩ : Collection).difference order).items
        shelf.items := by
  have hdefined : ∀ v ∈ shelf.items ++ order.items, v.Defined := by decide +kernel
  have hunion : shelf.union order = .ok ⟨.any, shelf.items ++ order.items⟩ := rfl
  obtain ⟨hcount, -, -, hperm, hback⟩ := difference_subtracts shelf order
  have hshelf : shelf.items.count (.ofFloat 0) = 2 := by decide +kernel
  have horder : order.items.count (.ofFloat 0) = 1 := by decide +kernel
  refine ⟨hdefined, hunion, ?_, hperm _ order.items.reverse_perm, hback hdefined _ hunion⟩
  rw [hcount, hshelf, horder]

end Collection

end StageScript
