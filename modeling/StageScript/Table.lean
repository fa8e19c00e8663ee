/-!
# Tables in key order

A table is a list of entries in increasing order of their keys. Scripts, stores and registries are
small, so looking up a key walks the list. The laws of look-up after a change are stated here for
every list, in order or not.
-/

namespace StageScript

/-- Entries by key, kept in increasing order of the keys. -/
structure Table (κ α : Type) where
  entries : List (κ × α)
deriving Repr

namespace Table

variable {κ α β : Type}

/-- The table without entries. -/
def empty : Table κ α := ⟨[]⟩

instance : Inhabited (Table κ α) := ⟨empty⟩

/-- The keys, in order. -/
def keys (t : Table κ α) : List κ := t.entries.map (·.1)

/-- The values, in the order of their keys. -/
def values (t : Table κ α) : List α := t.entries.map (·.2)

/-- The number of entries. -/
def size (t : Table κ α) : Nat := t.entries.length

/-- Whether there is no entry. -/
def isEmpty (t : Table κ α) : Bool := t.entries.isEmpty

section DecidableEq

variable [DecidableEq κ]

/-- The value under a key in a list of entries. -/
def findIn (key : κ) : List (κ × α) → Option α
  | [] => none
  | (k, v) :: es => if k = key then some v else findIn key es

/-- The value under a key. -/
def get? (t : Table κ α) (key : κ) : Option α := findIn key t.entries

/-- Whether a key has a value. -/
def contains (t : Table κ α) (key : κ) : Bool := (t.get? key).isSome

/-- Removes a key. -/
def erase (t : Table κ α) (key : κ) : Table κ α := ⟨t.entries.filter fun e => e.1 ≠ key⟩

variable [LT κ] [DecidableLT κ]

/-- Puts an entry in its place, or replaces the entry of the same key. -/
def insertIn (key : κ) (value : α) : List (κ × α) → List (κ × α)
  | [] => [(key, value)]
  | (k, v) :: es =>
    if k = key then (key, value) :: es
    else if key < k then (key, value) :: (k, v) :: es
    else (k, v) :: insertIn key value es

/-- Sets the value under a key. -/
def insert (t : Table κ α) (key : κ) (value : α) : Table κ α := ⟨insertIn key value t.entries⟩

/-- The table of a list of entries; of two with one key the later counts. -/
def ofList (es : List (κ × α)) : Table κ α := es.foldl (fun t e => t.insert e.1 e.2) empty

end DecidableEq

/-! ### Laws of look-up -/

section Laws

variable [DecidableEq κ]

@[simp] theorem get?_empty (key : κ) : (empty : Table κ α).get? key = none := rfl

theorem findIn_filter_ne (key other : κ) (es : List (κ × α)) :
    findIn other (es.filter fun e => e.1 ≠ key) =
      if other = key then none else findIn other es := by
  induction es with
  | nil => simp [findIn]
  | cons e es ih =>
    obtain ⟨k, v⟩ := e
    by_cases hk : k = key
    · subst hk
      simp only [ne_eq, not_true_eq_false, decide_false, Bool.false_eq_true, not_false_eq_true,
        List.filter_cons_of_neg, findIn]
      rw [ih]
      by_cases ho : other = k
      · simp [ho]
      · simp [ho, Ne.symm ho]
    · by_cases ho : k = other
      · subst ho
        simp [findIn, hk]
      · simp only [findIn, List.filter_cons, ne_eq, hk, not_false_eq_true, decide_true, ho,
          if_true, if_false]
        exact ih

/-- Erasing a key leaves the others as they were. -/
theorem get?_erase (t : Table κ α) (key other : κ) :
    (t.erase key).get? other = if other = key then none else t.get? other :=
  findIn_filter_ne key other t.entries

theorem get?_of_isEmpty {t : Table κ α} (h : t.isEmpty = true) (key : κ) : t.get? key = none := by
  have hnil : t.entries = [] := List.isEmpty_iff.mp h
  unfold get?
  rw [hnil]
  rfl

theorem mem_of_findIn {key : κ} {value : α} {es : List (κ × α)} (h : findIn key es = some value) :
    (key, value) ∈ es := by
  induction es with
  | nil => cases h
  | cons e es ih =>
    obtain ⟨k, v⟩ := e
    unfold findIn at h
    split at h
    · next hk =>
      rw [hk, Option.some.inj h]
      exact List.mem_cons_self
    · exact List.mem_cons_of_mem _ (ih h)

theorem mem_values_of_get? {t : Table κ α} {key : κ} {value : α} (h : t.get? key = some value) :
    value ∈ t.values :=
  List.mem_map.mpr ⟨(key, value), mem_of_findIn h, rfl⟩

variable [LT κ] [DecidableLT κ]

theorem isEmpty_insert (t : Table κ α) (key : κ) (value : α) :
    (t.insert key value).isEmpty = false := by
  unfold insert isEmpty insertIn
  split
  · rfl
  · split
    · rfl
    · split <;> rfl

theorem findIn_insertIn (key other : κ) (value : α) (es : List (κ × α)) :
    findIn other (insertIn key value es) = if other = key then some value else findIn other es := by
  induction es with
  | nil =>
    by_cases h : other = key
    · simp [insertIn, findIn, h]
    · simp [insertIn, findIn, h, Ne.symm h]
  | cons e es ih =>
    obtain ⟨k, v⟩ := e
    by_cases hk : k = key
    · by_cases h : other = key
      · simp [insertIn, findIn, hk, h]
      · simp [insertIn, findIn, hk, h, Ne.symm h]
    · by_cases hlt : key < k
      · by_cases h : other = key
        · simp [insertIn, findIn, hk, hlt, h]
        · simp [insertIn, findIn, hk, hlt, h, Ne.symm h]
      · by_cases ho : k = other
        · subst ho
          simp [insertIn, findIn, hk, hlt]
        · simp only [insertIn, hk, hlt, findIn, ho, if_false]
          exact ih

/-- Setting a key changes the value under it and no other. -/
theorem get?_insert (t : Table κ α) (key other : κ) (value : α) :
    (t.insert key value).get? other = if other = key then some value else t.get? other :=
  findIn_insertIn key other value t.entries

end Laws

end Table

end StageScript
