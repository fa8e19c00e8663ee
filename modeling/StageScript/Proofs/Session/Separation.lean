import StageScript.Proofs.Store.Names
import StageScript.Session

/-!
# Stored variables never alias

In a session several programs share a memory and a world. A `Place` is a place for a variable in any
of the stores of the session, and `Session.cell?` gives the cell it holds. No two places ever hold
one cell: a store is given none but cells that were made for it, whatever the scopes of a run share.

* `State.Separate` is the invariant for the stores one run sees, next to the cells that are held
  elsewhere. Every step of a run keeps it (`State.Separate.change`).
* `Session.Separate` is the invariant for all stores; it holds of every session that can be reached
  (`Session.Reached.separate`).
* So setting a variable, or writing into any cell, touches at most one place
  (`Session.Reached.never_alias`).
-/

namespace StageScript

/-! ### The stores one run sees -/

/-- The slots of a state hold cells that exist, each its own, and none that is held elsewhere. -/
structure State.Separate (elsewhere : CellId → Prop) (t : State) : Prop where
  apart : ∀ j k cell, t.slot? j = some cell → t.slot? k = some cell → j = k
  foreign : ∀ k cell, t.slot? k = some cell → ¬ elsewhere cell
  allocated : ∀ k cell, t.slot? k = some cell → cell < t.memory.cells.size
  elsewhere_allocated : ∀ cell, elsewhere cell → cell < t.memory.cells.size

namespace State.Separate

variable {elsewhere : CellId → Prop} {registry : Registry} {t t' : State}

/-- A change that puts no cell into a slot and forgets no cell. -/
theorem of_slots (h : t.Separate elsewhere)
    (hslot : ∀ k cell, t'.slot? k = some cell → t.slot? k = some cell)
    (hsize : t.memory.cells.size ≤ t'.memory.cells.size) : t'.Separate elsewhere where
  apart j k cell hj hk := h.apart j k cell (hslot j cell hj) (hslot k cell hk)
  foreign k cell hk := h.foreign k cell (hslot k cell hk)
  allocated k cell hk := Nat.lt_of_lt_of_le (h.allocated k cell (hslot k cell hk)) hsize
  elsewhere_allocated cell hc := Nat.lt_of_lt_of_le (h.elsewhere_allocated cell hc) hsize

theorem of_stores_eq (h : t.Separate elsewhere) (hw : t'.world = t.world) (ho : t'.own = t.own)
    (hsize : t.memory.cells.size ≤ t'.memory.cells.size) : t'.Separate elsewhere := by
  refine h.of_slots (fun k cell hk => ?_) hsize
  cases k <;> simpa [State.slot?, hw, ho] using hk

/-- **A new variable has a new cell.** -/
theorem place (h : t.Separate elsewhere) (tier : Tier) (scope : ScopeId) (id name : String)
    (v : Value) :
    State.Separate elsewhere (State.place { t with memory := (t.memory.newCell v).2 } tier scope id
      name t.memory.cells.size) := by
  have hslot := State.slot?_place { t with memory := (t.memory.newCell v).2 } tier scope id name
    t.memory.cells.size
  have hsize : (State.place { t with memory := (t.memory.newCell v).2 } tier scope id name
      t.memory.cells.size).memory.cells.size = t.memory.cells.size + 1 := by
    rw [State.cells_place]
    exact t.memory.size_newCell v
  -- the cells of the old slots are below the new one
  have hold : ∀ k cell, t.slot? k = some cell → cell ≠ t.memory.cells.size :=
    fun k cell hk => Nat.ne_of_lt (h.allocated k cell hk)
  refine ⟨fun j k cell hj hk => ?_, fun k cell hk hc => ?_, fun k cell hk => ?_, fun cell hc => ?_⟩
  · rw [hslot] at hj hk
    split_ifs at hj hk with hnew hnew' hnew'
    · exact Option.some.inj (hnew.symm.trans hnew')
    · exact absurd (Option.some.inj hj).symm (hold k cell hk)
    · exact absurd (Option.some.inj hk).symm (hold j cell hj)
    · exact h.apart j k cell hj hk
  · rw [hslot] at hk
    split_ifs at hk with hnew
    · cases hk
      exact Nat.lt_irrefl _ (h.elsewhere_allocated _ hc)
    · exact h.foreign k cell hk hc
  · rw [hsize]
    rw [hslot] at hk
    split_ifs at hk with hnew
    · cases hk
      exact Nat.lt_succ_self _
    · exact Nat.lt_succ_of_lt (h.allocated k cell hk)
  · rw [hsize]
    exact Nat.lt_succ_of_lt (h.elsewhere_allocated cell hc)

/-- **One step of a run keeps the slots separate.** -/
theorem change (h : t.Separate elsewhere) (hc : Change registry t t') : t'.Separate elsewhere := by
  cases hc with
  | write cell v => exact h.of_stores_eq rfl rfl (Nat.le_of_eq (t.memory.size_write cell v).symm)
  | bind scope name cell => exact h.of_stores_eq rfl rfl (Nat.le_refl _)
  | set scope name v => exact h.of_stores_eq rfl rfl (t.memory.size_le_set v scope name)
  | newScope => exact h.of_stores_eq rfl rfl (Nat.le_refl _)
  | assign ha =>
    rcases State.assign_cases ha with ⟨cell, -, rfl⟩ | ⟨-, -, rfl⟩
    · exact h.of_stores_eq rfl rfl (Nat.le_of_eq (t.memory.size_write cell _).symm)
    · exact h.place _ _ _ _ _
  | unassign tier scope id name =>
    refine h.of_slots (fun k cell hk => ?_) ?_
    · rw [State.slot?_unassign] at hk
      split_ifs at hk
      exact hk
    · exact Nat.le_of_eq (congrArg Array.size (t.cells_unassign tier scope id name)).symm
  | choose place choice => exact h.of_stores_eq rfl rfl (Nat.le_refl _)
  | note entry => exact h.of_stores_eq rfl rfl (Nat.le_refl _)

theorem changes (h : t.Separate elsewhere) (hc : Changes registry t t') :
    t'.Separate elsewhere := by
  induction hc with
  | refl => exact h
  | tail _ hc ih => exact ih.change hc

end State.Separate

/-! ### The stores of a session -/

/-- A place for a variable in a store. -/
inductive Store.Key where
  | shared (name : String)
  | character (id name : String)
deriving DecidableEq

/-- The cell of a variable in a store. -/
def Store.cell? (s : Store) : Store.Key → Option CellId
  | .shared name => s.shared? name
  | .character id name => s.characters? id name

/-- A store of a session: the shared world, the store of a program, or the world of a program that
has one of its own. -/
inductive StoreName where
  | world
  | own (program : String)
  | privateWorld (program : String)
deriving DecidableEq

/-- **A place for a variable in a session.** -/
structure Place where
  store : StoreName
  key : Store.Key
deriving DecidableEq

namespace Session

variable (s : Session)

/-- The store of a name. -/
def store? : StoreName → Option Store
  | .world => some s.world
  | .own program => (s.programs.get? program).map (·.own)
  | .privateWorld program => (s.programs.get? program).bind (·.privateWorld)

/-- The cell in a place. -/
def cell? (p : Place) : Option CellId := (s.store? p.store).bind (·.cell? p.key)

/-- The value in a place. -/
def value? (p : Place) : Option Value := (s.cell? p).map s.memory.read

/-- **The invariant of all stores**: places hold cells that exist, each its own. -/
structure Separate : Prop where
  apart : ∀ p q cell, s.cell? p = some cell → s.cell? q = some cell → p = q
  allocated : ∀ p cell, s.cell? p = some cell → cell < s.memory.cells.size

end Session

namespace Installed

variable (installed : Installed) (program : String)

/-- The world a program runs in. -/
def worldName : StoreName :=
  if installed.privateWorld.isSome then .privateWorld program else .world

/-- The place of a slot that a run of the program sees. -/
def placeOf : Slot → Place
  | .world name => ⟨installed.worldName program, .shared name⟩
  | .program name => ⟨.own program, .shared name⟩
  | .characterLocal id name => ⟨.own program, .character id name⟩
  | .characterGlobal id name => ⟨installed.worldName program, .character id name⟩

theorem own_ne_worldName (other : String) : StoreName.own other ≠ installed.worldName program := by
  unfold worldName
  split <;> simp

theorem placeOf_injective {j k : Slot}
    (h : installed.placeOf program j = installed.placeOf program k) : j = k := by
  have hne := installed.own_ne_worldName program program
  cases j <;> cases k <;> simp_all [placeOf, hne.symm]

/-- A place in a store that the program runs on is that of a slot. -/
theorem exists_placeOf {p : Place}
    (h : p.store = .own program ∨ p.store = installed.worldName program) :
    ∃ k, installed.placeOf program k = p := by
  obtain ⟨store, key⟩ := p
  rcases h with h | h <;> cases h <;> cases key with
  | shared name => first | exact ⟨.program name, rfl⟩ | exact ⟨.world name, rfl⟩
  | character id name =>
    first | exact ⟨.characterLocal id name, rfl⟩ | exact ⟨.characterGlobal id name, rfl⟩

end Installed

namespace Session

variable {s : Session} {program : String} {installed : Installed}

/-! ### What a run sees of the stores -/

section TakeBack

variable (hi : s.programs.get? program = some installed)
include hi

theorem store?_stateOf : s.store? (.own program) = some (s.stateOf installed).own ∧
    s.store? (installed.worldName program) = some (s.stateOf installed).world := by
  refine ⟨?_, ?_⟩
  · simp [store?, hi, stateOf]
  · unfold Installed.worldName stateOf
    cases hp : installed.privateWorld <;> simp [store?, hi, hp]

/-- The stores of a session once a run is over: the two that the run worked on, and the others as
they were. -/
theorem store?_takeBack (t : State) (name : StoreName) :
    (s.takeBack program installed t).store? name =
      if name = .own program then some t.own
      else if name = installed.worldName program then some t.world
      else s.store? name := by
  cases name with
  | world =>
    cases hp : installed.privateWorld <;>
      simp [store?, takeBack, Installed.worldName, hp]
  | own other =>
    by_cases ho : other = program
    · simp [store?, takeBack, Table.get?_insert, ho]
    · have hne := installed.own_ne_worldName program other
      simp [store?, takeBack, Table.get?_insert, ho, hne]
  | privateWorld other =>
    by_cases ho : other = program
    · subst ho
      cases hp : installed.privateWorld <;>
        simp [store?, takeBack, Table.get?_insert, Installed.worldName, hp, hi]
    · cases hp : installed.privateWorld <;>
        simp [store?, takeBack, Table.get?_insert, Installed.worldName, hp, ho]

theorem cell?_placeOf (k : Slot) :
    s.cell? (installed.placeOf program k) = (s.stateOf installed).slot? k := by
  obtain ⟨hown, hworld⟩ := store?_stateOf hi
  cases k <;> simp [cell?, Installed.placeOf, hown, hworld, Store.cell?, State.slot?]

theorem cell?_takeBack_placeOf (t : State) (k : Slot) :
    (s.takeBack program installed t).cell? (installed.placeOf program k) = t.slot? k := by
  have hne := (installed.own_ne_worldName program program).symm
  cases k <;>
    simp [cell?, Installed.placeOf, store?_takeBack hi, hne, Store.cell?, State.slot?]

/-- A place that a run does not see stays as it was. -/
theorem cell?_takeBack_of_forall_ne (t : State) {p : Place}
    (hp : ∀ k, installed.placeOf program k ≠ p) :
    (s.takeBack program installed t).cell? p = s.cell? p := by
  have hown : p.store ≠ .own program := fun h =>
    let ⟨k, hk⟩ := installed.exists_placeOf program (.inl h)
    hp k hk
  have hworld : p.store ≠ installed.worldName program := fun h =>
    let ⟨k, hk⟩ := installed.exists_placeOf program (.inr h)
    hp k hk
  unfold cell?
  rw [store?_takeBack hi, if_neg hown, if_neg hworld]

end TakeBack

/-- The cells that are held in places which a run of the program does not see. -/
def Elsewhere (s : Session) (program : String) (installed : Installed) (cell : CellId) : Prop :=
  ∃ p, (∀ k, installed.placeOf program k ≠ p) ∧ s.cell? p = some cell

/-! ### The invariant between and within runs -/

namespace Separate

theorem start : Separate {} := by
  have hcell : ∀ p, ({} : Session).cell? p = none := by
    rintro ⟨store, key⟩
    cases store <;> cases key <;> rfl
  refine ⟨fun p q cell hp => ?_, fun p cell hp => ?_⟩
  · rw [hcell] at hp
    cases hp
  · rw [hcell] at hp
    cases hp

theorem store?_install (id : String) (new : Program) (isPrivate : Bool) (name : StoreName) :
    (s.install id new isPrivate).store? name = s.store? name ∨
      ∀ store, (s.install id new isPrivate).store? name = some store → store = {} := by
  cases name with
  | world => exact .inl rfl
  | own other | privateWorld other =>
    by_cases ho : other = id
    · refine .inr fun store hstore => ?_
      cases isPrivate <;> simp [store?, install, Table.get?_insert, ho] at hstore <;>
        exact hstore.symm
    · exact .inl (by simp [store?, install, Table.get?_insert, ho])

theorem cell?_install {id : String} {new : Program} {isPrivate : Bool} {p : Place}
    {cell : CellId} (h : (s.install id new isPrivate).cell? p = some cell) :
    s.cell? p = some cell := by
  unfold cell? at h ⊢
  rcases store?_install (s := s) id new isPrivate p.store with hsame | hempty
  · rwa [hsame] at h
  · obtain ⟨store, hstore, hcell⟩ := Option.bind_eq_some_iff.mp h
    rw [hempty store hstore] at hcell
    cases hkey : p.key <;> rw [hkey] at hcell <;> cases hcell

/-- A new program starts with an empty store. -/
theorem install (h : s.Separate) (id : String) (new : Program) (isPrivate : Bool) :
    (s.install id new isPrivate).Separate where
  apart p q cell hp hq := h.apart p q cell (cell?_install hp) (cell?_install hq)
  allocated p cell hp := h.allocated p cell (cell?_install hp)

/-- A run starts with separate slots. -/
theorem stateOf (h : s.Separate) (hi : s.programs.get? program = some installed) :
    (s.stateOf installed).Separate (s.Elsewhere program installed) where
  apart j k cell hj hk := by
    rw [← cell?_placeOf hi] at hj hk
    exact installed.placeOf_injective program (h.apart _ _ cell hj hk)
  foreign k cell hk := by
    rintro ⟨p, hp, hcell⟩
    rw [← cell?_placeOf hi] at hk
    exact hp k (h.apart _ _ cell hk hcell)
  allocated k cell hk := by
    rw [← cell?_placeOf hi] at hk
    exact h.allocated _ cell hk
  elsewhere_allocated cell hc := by
    obtain ⟨p, -, hcell⟩ := hc
    exact h.allocated p cell hcell

/-- A place after a run is one that the run saw, or one of before. -/
theorem cell?_takeBack_cases (hi : s.programs.get? program = some installed) (t : State)
    (p : Place) :
    (∃ k, installed.placeOf program k = p ∧
      (s.takeBack program installed t).cell? p = t.slot? k) ∨
    ((∀ k, installed.placeOf program k ≠ p) ∧
      (s.takeBack program installed t).cell? p = s.cell? p) := by
  by_cases hp : ∃ k, installed.placeOf program k = p
  · obtain ⟨k, rfl⟩ := hp
    exact .inl ⟨k, rfl, cell?_takeBack_placeOf hi t k⟩
  · have hne : ∀ k, installed.placeOf program k ≠ p := fun k hk => hp ⟨k, hk⟩
    exact .inr ⟨hne, cell?_takeBack_of_forall_ne hi t hne⟩

/-- **A run, or a part of one, leaves all places separate.** -/
theorem takeBack (h : s.Separate) (hi : s.programs.get? program = some installed) {t : State}
    (ht : t.Separate (s.Elsewhere program installed)) :
    (s.takeBack program installed t).Separate := by
  refine ⟨fun p q cell hp hq => ?_, fun p cell hp => ?_⟩
  · rcases cell?_takeBack_cases hi t p with ⟨j, rfl, hj⟩ | ⟨hpne, hpold⟩ <;>
      rcases cell?_takeBack_cases hi t q with ⟨k, rfl, hk⟩ | ⟨hqne, hqold⟩
    · rw [ht.apart j k cell (hj ▸ hp) (hk ▸ hq)]
    · exact absurd ⟨q, hqne, hqold ▸ hq⟩ (ht.foreign j cell (hj ▸ hp))
    · exact absurd ⟨p, hpne, hpold ▸ hp⟩ (ht.foreign k cell (hk ▸ hq))
    · exact h.apart p q cell (hpold ▸ hp) (hqold ▸ hq)
  · rcases cell?_takeBack_cases hi t p with ⟨k, rfl, hk⟩ | ⟨hpne, hpold⟩
    · exact ht.allocated k cell (hk ▸ hp)
    · exact ht.elsewhere_allocated cell ⟨p, hpne, hpold ▸ hp⟩

end Separate

/-- **The sessions that can be reached**: programs of any kind are installed or replaced, and run in
any order, with any fuel. Within a run a session is seen as it would be if the run stopped there;
the steps of the run may be any, so they cover whatever a command of a host does with cells, scopes
and variables. -/
inductive Reached : Session → Prop
  | start : Reached {}
  | install {s : Session} (hs : Reached s) (id : String) (program : Program) (isPrivate : Bool) :
    Reached (s.install id program isPrivate)
  | run {s : Session} {id : String} {installed : Installed} (hs : Reached s)
    (hi : s.programs.get? id = some installed) (fuel : Nat) (request : Request) :
    Reached (s.takeBack id installed
      ((installed.program.runWithin fuel request).after (s.stateOf installed)))
  | within {s : Session} {id : String} {installed : Installed} {t : State} (hs : Reached s)
    (hi : s.programs.get? id = some installed)
    (hc : Change installed.program.registry (s.stateOf installed) t) :
    Reached (s.takeBack id installed t)

/-- What `Session.run` leaves is reached. -/
theorem Reached.of_run {s s' : Session} {id : String} {request : Request} {report : Report}
    (hs : s.Reached) (h : s.run id request = some (report, s')) : s'.Reached := by
  unfold Session.run at h
  obtain ⟨installed, hi, hrun⟩ := Option.map_eq_some_iff.mp h
  have hreached := hs.run hi Program.ampleFuel request
  unfold Run.after at hreached
  unfold Program.run at hrun
  split at hrun <;> cases hrun <;> simp_all

theorem Reached.separate {s : Session} (h : s.Reached) : s.Separate := by
  induction h with
  | start => exact .start
  | install _ id program isPrivate ih => exact ih.install id program isPrivate
  | run _ hi fuel request ih =>
    exact ih.takeBack hi ((ih.stateOf hi).changes (runWithin_changes _ fuel request _))
  | within _ hi hc ih => exact ih.takeBack hi ((ih.stateOf hi).change hc)

/-! ### What a step touches -/

/-- No place but this one has another cell or another value than before. -/
def TouchesOnly (s s' : Session) (place : Option Place) : Prop :=
  ∀ p, some p ≠ place → s'.cell? p = s.cell? p ∧ s'.value? p = s.value? p

section Touches

variable {id : String} {t : State}

theorem value?_eq_of_read_eq {s s' : Session} {p : Place} (hcell : s'.cell? p = s.cell? p)
    (hread : ∀ cell, s.cell? p = some cell → s'.memory.read cell = s.memory.read cell) :
    s'.value? p = s.value? p := by
  unfold value?
  rw [hcell]
  cases hp : s.cell? p with
  | none => rfl
  | some cell => exact congrArg some (hread cell hp)

/-- A write leaves all places with their cells. -/
theorem cell?_takeBack_write (hi : s.programs.get? id = some installed) (cell : CellId) (v : Value)
    (p : Place) :
    (s.takeBack id installed ((Run.write cell v).after (s.stateOf installed))).cell? p =
      s.cell? p := by
  rcases Separate.cell?_takeBack_cases hi ((Run.write cell v).after (s.stateOf installed)) p with
    ⟨k, rfl, hk⟩ | ⟨-, hold⟩
  · rw [hk, cell?_placeOf hi]
    cases k <;> rfl
  · exact hold

/-- **A write into a cell touches the place that holds it**, if there is one. -/
theorem touchesOnly_write (hi : s.programs.get? id = some installed)
    (cell : CellId) (v : Value) {place : Option Place}
    (hplace : ∀ p, s.cell? p = some cell → place = some p) :
    s.TouchesOnly (s.takeBack id installed ((Run.write cell v).after (s.stateOf installed)))
      place := by
  intro p hp
  have hcell := cell?_takeBack_write hi cell v p
  refine ⟨hcell, value?_eq_of_read_eq hcell fun other hother => ?_⟩
  refine s.memory.read_write_of_ne cell v fun heq => ?_
  subst heq
  exact hp (hplace p hother).symm

/-- There is at most one place that holds a cell. -/
theorem Separate.exists_place (h : s.Separate) (cell : CellId) :
    ∃ place : Option Place, ∀ p, s.cell? p = some cell → place = some p := by
  by_cases hheld : ∃ p, s.cell? p = some cell
  · obtain ⟨p, hp⟩ := hheld
    exact ⟨some p, fun q hq => congrArg some (h.apart p q cell hp hq)⟩
  · exact ⟨none, fun p hp => absurd ⟨p, hp⟩ hheld⟩

variable {tier : Tier} {scope : ScopeId} {actor name : String} {v : Value}

/-- **A new variable touches the place it is given.** -/
theorem touchesOnly_place (h : s.Separate) (hi : s.programs.get? id = some installed)
    (ht : t = State.place { s.stateOf installed with memory := (s.memory.newCell v).2 } tier scope
      actor name s.memory.cells.size) :
    s.TouchesOnly (s.takeBack id installed t)
      ((Slot.of? tier actor name).map (installed.placeOf id)) := by
  intro p hp
  have hcell : (s.takeBack id installed t).cell? p = s.cell? p := by
    rcases Separate.cell?_takeBack_cases hi t p with ⟨k, rfl, hk⟩ | ⟨-, hold⟩
    · have hk' : Slot.of? tier actor name ≠ some k := fun hk' => hp (by rw [hk']; rfl)
      rw [hk, ht, State.slot?_place, if_neg hk', cell?_placeOf hi]
      cases k <;> rfl
    · exact hold
  refine ⟨hcell, value?_eq_of_read_eq hcell fun other hother => ?_⟩
  show t.memory.read other = s.memory.read other
  unfold Memory.read
  rw [ht, State.cells_place]
  exact s.memory.read_newCell_of_lt v (h.allocated p other hother)

/-- **Setting a variable touches at most one place**: its own if it is stored, and otherwise one
that shares its cell. -/
theorem touchesOnly_assign (h : s.Separate) (hi : s.programs.get? id = some installed)
    (ha : (s.stateOf installed).assign installed.program.registry tier scope actor name v =
      .ok t) :
    ∃ place, s.TouchesOnly (s.takeBack id installed t) place ∧
      (∀ k, Slot.of? tier actor name = some k → place = some (installed.placeOf id k)) ∧
      (Slot.of? tier actor name = none →
        ∀ p, (s.takeBack id installed t).cell? p = s.cell? p) := by
  rcases State.assign_cases ha with ⟨cell, hcell, rfl⟩ | ⟨-, -, ht⟩
  · cases hk : Slot.of? tier actor name with
    | none =>
      obtain ⟨place, hplace⟩ := h.exists_place cell
      refine ⟨place, touchesOnly_write hi cell v hplace, fun k hk => ?_, fun _ => ?_⟩
      · cases hk
      · exact cell?_takeBack_write hi cell v
    | some k =>
      rw [inTier?_of_slot hk, ← cell?_placeOf hi] at hcell
      refine ⟨some (installed.placeOf id k), touchesOnly_write hi cell v fun p hp => ?_, ?_, ?_⟩
      · exact congrArg some (h.apart _ _ cell hcell hp)
      · exact fun j hj => congrArg (fun k => some (installed.placeOf id k)) (Option.some.inj hj)
      · exact fun hnone => by cases hnone
  · have htouches := touchesOnly_place h hi ht
    refine ⟨_, htouches, fun k hk => by rw [hk]; rfl, fun hk p => ?_⟩
    rw [hk] at htouches
    exact (htouches p fun hp => by cases hp).1

end Touches

/-- **Stored variables never alias.** In a session that can be reached, no two places hold one cell.
So setting a variable touches no place but its own, and setting a temporary name touches at most one
place, whose cell it shares; neither gives another cell to any other place. The same holds of a
write into any cell, such as loops make into the cell of their counter. -/
theorem Reached.never_alias {s : Session} (h : s.Reached) :
    (∀ p q cell, s.cell? p = some cell → s.cell? q = some cell → p = q) ∧
    ∀ id installed, s.programs.get? id = some installed →
      (∀ tier scope actor name v t,
        (s.stateOf installed).assign installed.program.registry tier scope actor name v = .ok t →
        ∃ place, s.TouchesOnly (s.takeBack id installed t) place ∧
          (∀ k, Slot.of? tier actor name = some k → place = some (installed.placeOf id k)) ∧
          (Slot.of? tier actor name = none →
            ∀ p, (s.takeBack id installed t).cell? p = s.cell? p)) ∧
      ∀ cell v,
        let s' := s.takeBack id installed ((Run.write cell v).after (s.stateOf installed))
        (∃ place, s.TouchesOnly s' place) ∧ ∀ p, s'.cell? p = s.cell? p := by
  have hseparate := h.separate
  refine ⟨hseparate.apart, fun id installed hi => ⟨?_, fun cell v => ⟨?_, ?_⟩⟩⟩
  · intro tier scope actor name v t ha
    exact touchesOnly_assign hseparate hi ha
  · obtain ⟨place, hplace⟩ := hseparate.exists_place cell
    exact ⟨place, touchesOnly_write hi cell v hplace⟩
  · exact cell?_takeBack_write hi cell v

/-! ### An example -/

/-- The script of the lines `SET: A = "x"`, `SET-HERE: B = A` and `SET-FOR-PROGRAM: C = B`. -/
def sharingScript : Script where
  labels := Table.empty
  lineLabels := Table.empty
  commands := ⟨[(0, ⟨"SET", [.value (.text "A"), .value (.text "x")], 0⟩),
    (1, ⟨"SET-HERE", [.value (.text "B"), .variable "A"], 1⟩),
    (2, ⟨"SET-FOR-PROGRAM", [.value (.text "C"), .variable "B"], 2⟩)]⟩
  startLine := 0
  lineCount := 3

/-- The script under the commands of the language. -/
def sharingProgram : Program where
  script := sharingScript
  registry := Registry.builtin

/-- A session with the program, before it is run. -/
def sharingStart : Session := Session.install {} "p" sharingProgram false

/-- The session after a run, in which `B` has shared the cell of `A`. -/
def sharingSession : Session :=
  sharingStart.takeBack "p" { program := sharingProgram }
    ((sharingProgram.runWithin 1 { actor := ⟨"c1", "BOB"⟩ }).after
      (sharingStart.stateOf { program := sharingProgram }))

/-- The session after a write into the cell of `A`. -/
def sharingWritten (installed : Installed) : Session :=
  sharingSession.takeBack "p" installed
    ((Run.write 0 (.text "y")).after (sharingSession.stateOf installed))

/-- A write into the cell of `A` leaves `C` alone, which was set to the same value. -/
theorem never_alias_sharing :
    ∃ installed, sharingSession.programs.get? "p" = some installed ∧
      sharingSession.value? ⟨.own "p", .shared "C"⟩ = some (.text "x") ∧
      (sharingWritten installed).value? ⟨.world, .character "c1" "A"⟩ = some (.text "y") ∧
      (sharingWritten installed).value? ⟨.own "p", .shared "C"⟩ = some (.text "x") := by
  have hreached : sharingSession.Reached :=
    .run (.install .start "p" sharingProgram false) rfl 1 _
  have hx : sharingSession.value? ⟨.own "p", .shared "C"⟩ = some (.text "x") := rfl
  refine ⟨_, rfl, hx, rfl, ?_⟩
  obtain ⟨⟨place, honly⟩, -⟩ := (hreached.never_alias.2 "p" _ rfl).2 0 (.text "y")
  -- `A` has another value than before, so it is the one place that was touched
  have hplace : place = some ⟨.world, .character "c1" "A"⟩ := by
    by_cases hplace : place = some ⟨.world, .character "c1" "A"⟩
    · exact hplace
    · have hsame : some (Value.text "y") = some (Value.text "x") :=
        (honly ⟨.world, .character "c1" "A"⟩ (Ne.symm hplace)).2
      simp at hsame
  exact (honly ⟨.own "p", .shared "C"⟩ (by rw [hplace]; decide)).2.trans hx

end Session

end StageScript
