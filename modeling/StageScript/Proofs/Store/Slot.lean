import StageScript.Store.State

/-!
# Slots of the stores

A `Slot` is a place for a variable in the stores a run sees: a name of the world, a name of the
program, or a name of one character, for the program or for the world. What the stores hold is seen
through `State.slot?`, which gives the cell in a slot. Setting a new name fills one slot and
removing a name empties one (`slot?_place`, `slot?_unassign`); every other slot stays as it was.
The last part is about the memory: what a step does to the cells and to the names of the scopes.
-/

namespace StageScript

/-! ### Stores -/

namespace Store

variable (s : Store) (id name id' name' : String) (cell : CellId)

/-- No character is kept without variables. -/
def Filled : Prop := ∀ id names, s.byCharacter.get? id = some names → names.isEmpty = false

theorem characters?_of_get? {names : Names} (h : s.byCharacter.get? id = some names) :
    s.characters? id name = names.get? name := by
  unfold characters?
  rw [h]
  rfl

theorem characters?_addFor :
    (s.addFor id name cell).characters? id' name' =
      if id' = id ∧ name' = name then some cell else s.characters? id' name' := by
  unfold addFor characters?
  rw [Table.get?_insert]
  by_cases hid : id' = id
  · subst hid
    rw [if_pos rfl, Option.bind_some, Table.get?_insert]
    by_cases hname : name' = name
    · rw [if_pos hname, if_pos ⟨rfl, hname⟩]
    · rw [if_neg hname, if_neg fun h => hname h.2]
      cases s.byCharacter.get? id' <;> rfl
  · rw [if_neg hid, if_neg fun h => hid h.1]

theorem removeFor_of_none (h : s.byCharacter.get? id = none) : s.removeFor id name = s := by
  unfold removeFor
  rw [h]

theorem shared_removeFor : (s.removeFor id name).shared = s.shared := by
  unfold removeFor
  split
  · rfl
  · dsimp only
    split <;> rfl

/-- The names of each character after a removal. -/
theorem get?_removeFor {names : Names} (h : s.byCharacter.get? id = some names) :
    (s.removeFor id name).byCharacter.get? id' =
      if id' = id then
        if (names.erase name).isEmpty then none else some (names.erase name)
      else s.byCharacter.get? id' := by
  unfold removeFor
  rw [h]
  dsimp only
  split
  · exact Table.get?_erase _ _ _
  · exact Table.get?_insert _ _ _ _

theorem characters?_removeFor :
    (s.removeFor id name).characters? id' name' =
      if id' = id ∧ name' = name then none else s.characters? id' name' := by
  cases hnames : s.byCharacter.get? id with
  | none =>
    rw [s.removeFor_of_none id name hnames]
    by_cases h : id' = id ∧ name' = name
    · rw [if_pos h, h.1]
      unfold characters?
      rw [hnames]
      rfl
    · rw [if_neg h]
  | some names =>
    by_cases hid : id' = id
    · subst hid
      -- the names that are left are those from before, without `name`
      have hleft := Table.get?_erase names name name'
      have hafter := s.get?_removeFor id' name id' hnames
      rw [if_pos rfl] at hafter
      rw [characters?_of_get? s id' name' hnames]
      simp only [true_and]
      rw [← hleft]
      unfold characters?
      rw [hafter]
      split
      · next hempty => exact (Table.get?_of_isEmpty hempty name').symm
      · rfl
    · rw [if_neg fun h => hid h.1]
      unfold characters?
      rw [s.get?_removeFor id name id' hnames, if_neg hid]

theorem anyCharacterHas_of_characters? (h : (s.characters? id name).isSome) :
    s.anyCharacterHas name = true := by
  unfold characters? at h
  cases hnames : s.byCharacter.get? id with
  | none =>
    rw [hnames] at h
    cases h
  | some names =>
    rw [hnames] at h
    exact List.any_eq_true.mpr ⟨names, Table.mem_values_of_get? hnames, h⟩

theorem Filled.addFor {s : Store} (h : s.Filled) : (s.addFor id name cell).Filled := by
  intro id' names hn
  unfold Store.addFor at hn
  rw [Table.get?_insert] at hn
  split at hn
  · cases hn
    exact Table.isEmpty_insert _ _ _
  · exact h id' names hn

theorem Filled.removeFor {s : Store} (h : s.Filled) : (s.removeFor id name).Filled := by
  cases hnames : s.byCharacter.get? id with
  | none =>
    rw [s.removeFor_of_none id name hnames]
    exact h
  | some names =>
    intro id' names' hn
    rw [s.get?_removeFor id name id' hnames] at hn
    split at hn
    · split at hn
      · cases hn
      · next hleft =>
        cases hn
        simpa using hleft
    · exact h id' names' hn

end Store

/-! ### Slots -/

/-- **A place for a variable in the stores.** -/
inductive Slot where
  | world (name : String)
  | program (name : String)
  | characterLocal (id name : String)
  | characterGlobal (id name : String)
deriving DecidableEq

/-- The slot of a name in a tier; the temporary tier has none. -/
def Slot.of? (tier : Tier) (id name : String) : Option Slot :=
  match tier with
  | .temp => none
  | .characterLocal => some (.characterLocal id name)
  | .characterGlobal => some (.characterGlobal id name)
  | .program => some (.program name)
  | .world => some (.world name)

/-- The name of the variable. -/
def Slot.name : Slot → String
  | .world name | .program name | .characterLocal _ name | .characterGlobal _ name => name

theorem Slot.name_of_of? {tier : Tier} {id name : String} {k : Slot}
    (h : Slot.of? tier id name = some k) : k.name = name := by
  cases tier <;> cases h <;> rfl

namespace State

variable (s : State) (tier : Tier) (scope : ScopeId) (id name : String) (cell : CellId)

/-- The cell in a slot. -/
def slot? : Slot → Option CellId
  | .world name => s.world.shared? name
  | .program name => s.own.shared? name
  | .characterLocal id name => s.own.characters? id name
  | .characterGlobal id name => s.world.characters? id name

theorem stored?_eq : s.stored? tier id name = (Slot.of? tier id name).bind s.slot? := by
  cases tier <;> rfl

/-- **Creating a name fills its slot and no other.** -/
theorem slot?_place (k : Slot) :
    (s.place tier scope id name cell).slot? k =
      if Slot.of? tier id name = some k then some cell else s.slot? k := by
  cases tier with
  | temp => rfl
  | characterLocal =>
    cases k with
    | characterLocal id' name' =>
      refine (s.own.characters?_addFor id name id' name' cell).trans ?_
      simp [Slot.of?, slot?, eq_comm]
    | world name' | program name' | characterGlobal id' name' => rfl
  | characterGlobal =>
    cases k with
    | characterGlobal id' name' =>
      refine (s.world.characters?_addFor id name id' name' cell).trans ?_
      simp [Slot.of?, slot?, eq_comm]
    | world name' | program name' | characterLocal id' name' => rfl
  | program =>
    cases k with
    | program name' =>
      refine (Table.get?_insert s.own.shared name name' cell).trans ?_
      simp [Slot.of?, slot?, Store.shared?, eq_comm]
    | world name' | characterLocal id' name' | characterGlobal id' name' => rfl
  | world =>
    cases k with
    | world name' =>
      refine (Table.get?_insert s.world.shared name name' cell).trans ?_
      simp [Slot.of?, slot?, Store.shared?, eq_comm]
    | program name' | characterLocal id' name' | characterGlobal id' name' => rfl

/-- **Removing a name empties its slot and no other.** -/
theorem slot?_unassign (k : Slot) :
    (s.unassign tier scope id name).slot? k =
      if Slot.of? tier id name = some k then none else s.slot? k := by
  cases tier with
  | temp => rfl
  | characterLocal =>
    cases k with
    | characterLocal id' name' =>
      refine (s.own.characters?_removeFor id name id' name').trans ?_
      simp [Slot.of?, slot?, eq_comm]
    | program name' => exact congrArg (Table.get? · name') (s.own.shared_removeFor id name)
    | world name' | characterGlobal id' name' => rfl
  | characterGlobal =>
    cases k with
    | characterGlobal id' name' =>
      refine (s.world.characters?_removeFor id name id' name').trans ?_
      simp [Slot.of?, slot?, eq_comm]
    | world name' => exact congrArg (Table.get? · name') (s.world.shared_removeFor id name)
    | program name' | characterLocal id' name' => rfl
  | program =>
    cases k with
    | program name' =>
      refine (Table.get?_erase s.own.shared name name').trans ?_
      simp [Slot.of?, slot?, Store.shared?, eq_comm]
    | world name' | characterLocal id' name' | characterGlobal id' name' => rfl
  | world =>
    cases k with
    | world name' =>
      refine (Table.get?_erase s.world.shared name name').trans ?_
      simp [Slot.of?, slot?, Store.shared?, eq_comm]
    | program name' | characterLocal id' name' | characterGlobal id' name' => rfl

/-- **What setting a name does**: it writes into the cell the name has, or makes a cell and a name
for it if nothing stands against it. -/
theorem assign_cases {s s' : State} {registry : Registry} {tier : Tier} {scope : ScopeId}
    {id name : String} {v : Value} (h : s.assign registry tier scope id name v = .ok s') :
    (∃ cell, s.inTier? tier scope id name = some cell ∧
      s' = { s with memory := s.memory.write cell v }) ∨
    (s.inTier? tier scope id name = none ∧ s.refusal? registry tier name = none ∧
      s' = State.place { s with memory := (s.memory.newCell v).2 } tier scope id name
        s.memory.cells.size) := by
  unfold assign at h
  split at h
  · next cell hcell =>
    cases h
    exact .inl ⟨cell, hcell, rfl⟩
  · next hnone =>
    split at h
    · cases h
    · next hrefusal =>
      cases h
      exact .inr ⟨hnone, hrefusal, rfl⟩

end State

namespace Memory

variable (m : Memory) (cell : CellId) (v : Value)

/-! ### Cells -/

theorem size_write : (m.write cell v).cells.size = m.cells.size := Array.size_setIfInBounds

theorem read_write (h : cell < m.cells.size) : (m.write cell v).read cell = v := by
  simp [read, write, Array.getD_eq_getD_getElem?, h]

theorem read_write_of_ne {other : CellId} (h : other ≠ cell) :
    (m.write cell v).read other = m.read other := by
  simp only [read, write, Array.getD_eq_getD_getElem?]
  rw [Array.getElem?_setIfInBounds_ne h.symm]

theorem read_newCell : (m.newCell v).2.read m.cells.size = v := by
  simp [read, newCell, Array.getD_eq_getD_getElem?]

theorem read_newCell_of_lt {other : CellId} (h : other < m.cells.size) :
    (m.newCell v).2.read other = m.read other := by
  simp only [read, newCell, Array.getD_eq_getD_getElem?]
  rw [Array.getElem?_push_lt h, Array.getElem?_eq_getElem h]

theorem size_newCell : (m.newCell v).2.cells.size = m.cells.size + 1 := Array.size_push _

theorem size_le_set (scope : ScopeId) (name : String) :
    m.cells.size ≤ (m.set scope name v).cells.size := by
  unfold set
  split
  · exact Nat.le_of_eq (size_write _ _ _).symm
  · show m.cells.size ≤ (m.newCell v).2.cells.size
    exact Nat.le_trans (Nat.le_succ _) (Nat.le_of_eq (size_newCell _ _).symm)

/-! ### Scopes -/

section Scopes

variable (scope : ScopeId) (name : String) {other : ScopeId} {name' : String} {c : CellId}

theorem names_of_size_le (h : m.scopes.size ≤ scope) : m.names scope = Table.empty := by
  unfold names
  rw [Array.getD_eq_getD_getElem?, Array.getElem?_eq_none h]
  rfl

theorem names_newScope : m.newScope.2.names scope = m.names scope := by
  unfold names newScope
  rw [Array.getD_eq_getD_getElem?, Array.getD_eq_getD_getElem?, Array.getElem?_push]
  split
  · next h =>
    rw [h, Array.getElem?_eq_none (Nat.le_refl _)]
    rfl
  · rfl

theorem cellIn?_of_size_le (h : m.scopes.size ≤ scope) : m.cellIn? scope name = none := by
  unfold cellIn?
  rw [names_of_size_le m scope h]
  rfl

theorem cellIn?_newScope : m.newScope.2.cellIn? scope name = m.cellIn? scope name := by
  unfold cellIn?
  rw [names_newScope]

/-- Whatever is put in the place of a scope, the others stay as they were. -/
theorem names_replace (names : Names) :
    ({ m with scopes := m.scopes.setIfInBounds scope names } : Memory).names other =
      if other = scope ∧ scope < m.scopes.size then names else m.names other := by
  unfold Memory.names
  dsimp only
  rw [Array.getD_eq_getD_getElem?, Array.getElem?_setIfInBounds, Array.getD_eq_getD_getElem?]
  by_cases ho : other = scope
  · subst ho
    by_cases hlt : other < m.scopes.size <;> simp [hlt]
  · simp [ho, Ne.symm ho]

theorem names_bind_of_ne (h : other ≠ scope) :
    (m.bind scope name cell).names other = m.names other := by
  unfold bind
  rw [names_replace, if_neg fun ho => h ho.1]

theorem names_unbind_of_ne (h : other ≠ scope) :
    (m.unbind scope name).names other = m.names other := by
  unfold unbind
  rw [names_replace, if_neg fun ho => h ho.1]

/-- A name of a scope after a binding is the bound one or one from before. -/
theorem cellIn?_of_bind (h : (m.bind scope name cell).cellIn? other name' = some c) :
    other = scope ∧ name' = name ∧ c = cell ∨ m.cellIn? other name' = some c := by
  unfold cellIn? bind at h
  rw [names_replace] at h
  split at h
  · next ho =>
    obtain ⟨rfl, -⟩ := ho
    rw [Table.get?_insert] at h
    split at h
    · next hname => exact .inl ⟨rfl, hname, (Option.some.inj h).symm⟩
    · exact .inr h
  · exact .inr h

theorem cellIn?_of_unbind (h : (m.unbind scope name).cellIn? other name' = some c) :
    m.cellIn? other name' = some c := by
  unfold cellIn? unbind at h
  rw [names_replace] at h
  split at h
  · next ho =>
    obtain ⟨rfl, -⟩ := ho
    rw [Table.get?_erase] at h
    split at h
    · cases h
    · exact h
  · exact h

/-- **What setting a name of a scope does**: it writes into its cell, or binds it to a new one. -/
theorem set_cases :
    (∃ cell, m.cellIn? scope name = some cell ∧ m.set scope name v = m.write cell v) ∨
    (m.cellIn? scope name = none ∧
      m.set scope name v = (m.newCell v).2.bind scope name m.cells.size) := by
  unfold set
  cases h : m.cellIn? scope name with
  | some cell => exact .inl ⟨cell, rfl, rfl⟩
  | none => exact .inr ⟨rfl, rfl⟩

end Scopes

end Memory

/-! ### What setting and removing a variable does to the memory -/

namespace State

variable (s : State) (tier : Tier) (scope : ScopeId) (id name : String) (cell : CellId)

theorem cells_place : (s.place tier scope id name cell).memory.cells = s.memory.cells := by
  cases tier <;> rfl

theorem cells_unassign : (s.unassign tier scope id name).memory.cells = s.memory.cells := by
  cases tier <;> rfl

theorem scopes_size_place :
    (s.place tier scope id name cell).memory.scopes.size = s.memory.scopes.size := by
  cases tier with
  | temp => exact Array.size_setIfInBounds
  | characterLocal | characterGlobal | program | world => rfl

theorem scopes_size_unassign :
    (s.unassign tier scope id name).memory.scopes.size = s.memory.scopes.size := by
  cases tier with
  | temp => exact Array.size_setIfInBounds
  | characterLocal | characterGlobal | program | world => rfl

section Names

variable {other : ScopeId} {name' : String} {c : CellId}

theorem names_place_of_ne (h : other ≠ scope) :
    (s.place tier scope id name cell).memory.names other = s.memory.names other := by
  cases tier with
  | temp => exact s.memory.names_bind_of_ne cell scope name h
  | characterLocal | characterGlobal | program | world => rfl

theorem names_unassign_of_ne (h : other ≠ scope) :
    (s.unassign tier scope id name).memory.names other = s.memory.names other := by
  cases tier with
  | temp => exact s.memory.names_unbind_of_ne scope name h
  | characterLocal | characterGlobal | program | world => rfl

theorem cellIn?_of_place
    (h : (s.place tier scope id name cell).memory.cellIn? other name' = some c) :
    other = scope ∧ name' = name ∧ c = cell ∨ s.memory.cellIn? other name' = some c := by
  cases tier with
  | temp => exact s.memory.cellIn?_of_bind cell scope name h
  | characterLocal | characterGlobal | program | world => exact .inr h

theorem cellIn?_of_unassign
    (h : (s.unassign tier scope id name).memory.cellIn? other name' = some c) :
    s.memory.cellIn? other name' = some c := by
  cases tier with
  | temp => exact s.memory.cellIn?_of_unbind scope name h
  | characterLocal | characterGlobal | program | world => exact h

end Names

end State

end StageScript
