import Mathlib.Tactic.SplitIfs
import StageScript.Proofs.Engine.Change
import StageScript.Proofs.Store.Slot

/-!
# Names are apart

Variables of the world, of the program and of the characters never share a name, as long as one
program alone works on the world. A name is checked only when it is created, and against the names
that exist then; that this is enough is the invariant `Tidy`, which every change of the state keeps
(`Tidy.change`). So it holds in every state that can be reached from empty stores, between runs and
within them (`Reached.tidy`).

For a variable of the world or of the program it follows that no character can hide it: once it is
set, every actor sees the new value, unless a temporary name stands before it
(`lookUp_of_assign`).
-/

namespace StageScript

/-- Who holds a variable. The characters count as one holder, for the program and for the world. -/
inductive Holder where
  | world
  | program
  | characters
deriving DecidableEq

/-- The holder of a slot. -/
def Slot.holder : Slot → Holder
  | .world _ => .world
  | .program _ => .program
  | .characterLocal _ _ | .characterGlobal _ _ => .characters

/-- Some slot of a holder has a variable of this name. -/
def State.Holds (s : State) (holder : Holder) (name : String) : Prop :=
  ∃ k : Slot, k.holder = holder ∧ k.name = name ∧ (s.slot? k).isSome

/-- **The invariant of the stores.** -/
structure Tidy (registry : Registry) (s : State) : Prop where
  /-- A name has one holder. -/
  apart : ∀ k k' : Slot, k.name = k'.name → (s.slot? k).isSome → (s.slot? k').isSome →
    k.holder = k'.holder
  /-- A name of a variable is neither that of a command nor reserved. -/
  free : ∀ k : Slot, (s.slot? k).isSome →
    registry.hasCommand k.name = false ∧ isReserved k.name = false
  /-- Variables have cells that exist. -/
  allocated : ∀ (k : Slot) (cell : CellId), s.slot? k = some cell → cell < s.memory.cells.size
  /-- No character is kept without variables. -/
  filled : s.own.Filled ∧ s.world.Filled

/-! ### Creating a name -/

section Refusal

variable {s : State} {registry : Registry} {tier : Tier} {id name : String}

theorem free_of_refusal (h : s.refusal? registry tier name = none) :
    registry.hasCommand name = false ∧ isReserved name = false := by
  unfold State.refusal? at h
  split at h
  · cases h
  · next hcommand =>
    split at h
    · cases h
    · next hreserved => exact ⟨by simpa using hcommand, by simpa using hreserved⟩

theorem conflict_of_refusal (h : s.refusal? registry tier name = none) :
    s.conflict? tier name = none := by
  unfold State.refusal? at h
  split at h
  · cases h
  · split at h
    · cases h
    · exact Option.map_eq_none_iff.mp h

/-- What the check of a new name looks at. -/
def State.seenIn (s : State) (name : String) : Holder → Bool
  | .world => s.world.shared.contains name
  | .program => s.own.shared.contains name
  | .characters => s.world.anyCharacterHas name || s.own.anyCharacterHas name

theorem seenIn_of_slot {k : Slot} (h : (s.slot? k).isSome) : s.seenIn k.name k.holder = true := by
  cases k with
  | world name => exact h
  | program name => exact h
  | characterLocal id name =>
    exact Bool.or_eq_true_iff.mpr (.inr (s.own.anyCharacterHas_of_characters? id name h))
  | characterGlobal id name =>
    exact Bool.or_eq_true_iff.mpr (.inl (s.world.anyCharacterHas_of_characters? id name h))

/-- **A name that passes the check has no other holder.** -/
theorem holder_of_conflict (h : s.conflict? tier name = none) {k : Slot}
    (hk : Slot.of? tier id name = some k) {holder : Holder} (hs : s.seenIn name holder = true) :
    holder = k.holder := by
  unfold State.conflict? at h
  cases tier with
  | temp => cases hk
  | characterLocal | characterGlobal =>
    cases hk
    dsimp only at h
    split_ifs at h with hworld hprogram
    cases holder with
    | world => exact absurd hs hworld
    | program => exact absurd hs hprogram
    | characters => rfl
  | program =>
    cases hk
    dsimp only at h
    split_ifs at h with hworld hcharacters
    cases holder with
    | world => exact absurd hs hworld
    | program => rfl
    | characters => exact absurd hs hcharacters
  | world =>
    cases hk
    dsimp only at h
    split_ifs at h with hprogram hcharacters
    cases holder with
    | world => rfl
    | program => exact absurd hs hprogram
    | characters => exact absurd hs hcharacters

end Refusal

/-! ### The invariant along a run -/

namespace Tidy

variable {registry : Registry} {s s' : State}

theorem start (hw : s.world = {}) (ho : s.own = {}) : Tidy registry s := by
  have hslot : ∀ k, s.slot? k = none := by
    intro k
    cases k <;> simp [State.slot?, hw, ho, Store.shared?, Store.characters?]
  refine ⟨fun k k' _ hk => ?_, fun k hk => ?_, fun k cell hk => ?_, ?_, ?_⟩
  · rw [hslot] at hk
    cases hk
  · rw [hslot] at hk
    cases hk
  · rw [hslot] at hk
    cases hk
  · intro id names hn
    rw [ho] at hn
    cases hn
  · intro id names hn
    rw [hw] at hn
    cases hn

/-- A change that leaves the stores alone and forgets no cell. -/
theorem of_stores_eq (h : Tidy registry s) (hw : s'.world = s.world) (ho : s'.own = s.own)
    (hsize : s.memory.cells.size ≤ s'.memory.cells.size) : Tidy registry s' := by
  have hslot : ∀ k, s'.slot? k = s.slot? k := by
    intro k
    cases k <;> simp [State.slot?, hw, ho]
  refine ⟨fun k k' hname hk hk' => ?_, fun k hk => ?_, fun k cell hk => ?_, ?_⟩
  · rw [hslot] at hk hk'
    exact h.apart k k' hname hk hk'
  · rw [hslot] at hk
    exact h.free k hk
  · rw [hslot] at hk
    exact Nat.lt_of_lt_of_le (h.allocated k cell hk) hsize
  · rw [hw, ho]
    exact h.filled

theorem filled_place (h : s.own.Filled ∧ s.world.Filled) (tier : Tier) (scope : ScopeId)
    (id name : String) (cell : CellId) :
    (s.place tier scope id name cell).own.Filled ∧
      (s.place tier scope id name cell).world.Filled := by
  cases tier with
  | temp | program | world => exact h
  | characterLocal => exact ⟨h.1.addFor id name cell, h.2⟩
  | characterGlobal => exact ⟨h.1, h.2.addFor id name cell⟩

theorem filled_unassign (h : s.own.Filled ∧ s.world.Filled) (tier : Tier) (scope : ScopeId)
    (id name : String) :
    (s.unassign tier scope id name).own.Filled ∧ (s.unassign tier scope id name).world.Filled := by
  cases tier with
  | temp | program | world => exact h
  | characterLocal => exact ⟨h.1.removeFor id name, h.2⟩
  | characterGlobal => exact ⟨h.1, h.2.removeFor id name⟩

/-- **A new name that passes the check keeps the stores tidy.** -/
theorem place (h : Tidy registry s) {tier : Tier} {id name : String}
    (hr : s.refusal? registry tier name = none) (scope : ScopeId) (v : Value) :
    Tidy registry (State.place { s with memory := (s.memory.newCell v).2 } tier scope id name
      s.memory.cells.size) := by
  -- a slot of the new name that is already filled belongs to the holder of the new slot
  have hholder : ∀ k k', Slot.of? tier id name = some k → k.name = k'.name →
      (s.slot? k').isSome → k'.holder = k.holder := by
    intro k k' hk hname hk'
    have hseen := seenIn_of_slot hk'
    rw [← hname, Slot.name_of_of? hk] at hseen
    exact holder_of_conflict (conflict_of_refusal hr) hk hseen
  have hslot := State.slot?_place { s with memory := (s.memory.newCell v).2 } tier scope id name
    s.memory.cells.size
  have hsize : s.memory.cells.size <
      (State.place { s with memory := (s.memory.newCell v).2 } tier scope id name
        s.memory.cells.size).memory.cells.size := by
    have := s.memory.size_newCell v
    cases tier <;> simp [State.place, Memory.bind, this]
  refine ⟨fun k k' hname hk hk' => ?_, fun k hk => ?_, fun k cell hk => ?_, ?_⟩
  · rw [hslot] at hk hk'
    split_ifs at hk hk' with hnew hnew' hnew'
    · rw [hnew, Option.some.injEq] at hnew'
      rw [hnew']
    · exact (hholder k k' hnew hname hk').symm
    · exact hholder k' k hnew' hname.symm hk
    · exact h.apart k k' hname hk hk'
  · rw [hslot] at hk
    split_ifs at hk with hnew
    · rw [Slot.name_of_of? hnew]
      exact free_of_refusal hr
    · exact h.free k hk
  · rw [hslot] at hk
    split_ifs at hk with hnew
    · cases hk
      exact hsize
    · exact Nat.lt_trans (h.allocated k cell hk) hsize
  · exact filled_place (s := { s with memory := (s.memory.newCell v).2 }) h.filled tier scope id
      name _

theorem unassign (h : Tidy registry s) (tier : Tier) (scope : ScopeId) (id name : String) :
    Tidy registry (s.unassign tier scope id name) := by
  have hslot := s.slot?_unassign tier scope id name
  have hold : ∀ {k cell}, (s.unassign tier scope id name).slot? k = some cell →
      s.slot? k = some cell := by
    intro k cell hk
    rw [hslot] at hk
    split_ifs at hk
    exact hk
  have holdSome : ∀ {k}, ((s.unassign tier scope id name).slot? k).isSome → (s.slot? k).isSome := by
    intro k hk
    obtain ⟨cell, hk⟩ := Option.isSome_iff_exists.mp hk
    rw [hold hk]
    rfl
  have hsize : (s.unassign tier scope id name).memory.cells.size = s.memory.cells.size := by
    cases tier <;> rfl
  refine ⟨fun k k' hname hk hk' => h.apart k k' hname (holdSome hk) (holdSome hk'),
    fun k hk => h.free k (holdSome hk), fun k cell hk => ?_,
    filled_unassign h.filled tier scope id name⟩
  rw [hsize]
  exact h.allocated k cell (hold hk)

/-- **One step of a run keeps the stores tidy.** -/
theorem change (h : Tidy registry s) (hc : Change registry s s') : Tidy registry s' := by
  cases hc with
  | write cell v => exact h.of_stores_eq rfl rfl (Nat.le_of_eq (s.memory.size_write cell v).symm)
  | bind scope name cell => exact h.of_stores_eq rfl rfl (Nat.le_refl _)
  | set scope name v => exact h.of_stores_eq rfl rfl (s.memory.size_le_set v scope name)
  | newScope => exact h.of_stores_eq rfl rfl (Nat.le_refl _)
  | assign ha =>
    rcases State.assign_cases ha with ⟨cell, -, rfl⟩ | ⟨-, hr, rfl⟩
    · exact h.of_stores_eq rfl rfl (Nat.le_of_eq (s.memory.size_write cell _).symm)
    · exact h.place hr _ _
  | unassign tier scope id name => exact h.unassign tier scope id name
  | choose place choice => exact h.of_stores_eq rfl rfl (Nat.le_refl _)
  | note entry => exact h.of_stores_eq rfl rfl (Nat.le_refl _)

theorem changes (h : Tidy registry s) (hc : Changes registry s s') : Tidy registry s' := by
  induction hc with
  | refl => exact h
  | tail _ hc ih => exact ih.change hc

end Tidy

/-- **The states that can be reached from empty stores**, by runs of any scripts under one
registry, and within these runs by any of the steps they are made of. Between two runs the log is
taken away, and another script comes with choices of its own. -/
inductive Reached (registry : Registry) : State → Prop
  | start {s : State} (hw : s.world = {}) (ho : s.own = {}) : Reached registry s
  | between {s : State} (choices : Choices) (log : Array LogEntry) (hs : Reached registry s) :
    Reached registry { s with choices, log }
  | run {program : Program} {s : State} (fuel : Nat) (request : Request)
    (hp : program.registry = registry) (hs : Reached registry s) :
    Reached registry ((program.runWithin fuel request).after s)
  | within {s s' : State} (hs : Reached registry s) (hc : Change registry s s') :
    Reached registry s'

theorem Reached.tidy {registry : Registry} {s : State} (h : Reached registry s) :
    Tidy registry s := by
  induction h with
  | start hw ho => exact .start hw ho
  | between choices log _ ih => exact ih.of_stores_eq rfl rfl (Nat.le_refl _)
  | run fuel request hp _ ih =>
    subst hp
    exact ih.changes (runWithin_changes _ fuel request _)
  | within _ hc ih => exact ih.change hc

/-! ### Who sees a variable that was set -/

/-- Every actor sees the value under the name, unless a temporary name stands before it. -/
def State.SeenByAll (s : State) (name : String) (v : Value) : Prop :=
  ∀ (scope : ScopeId) (actor : String), s.memory.cellIn? scope name = none →
    (s.lookUp? scope actor name).map s.memory.read = some v

section Assign

variable {registry : Registry} {s s' : State} {tier : Tier} {scope : ScopeId} {id name : String}
  {v : Value} {k : Slot}

theorem inTier?_of_slot (hk : Slot.of? tier id name = some k) :
    s.inTier? tier scope id name = s.slot? k := by
  cases tier <;> cases hk <;> rfl

theorem memory_place (hk : Slot.of? tier id name = some k) (cell : CellId) :
    (s.place tier scope id name cell).memory = s.memory := by
  cases tier <;> cases hk <;> rfl

/-- After a name is set, its slot has a cell with the value. -/
theorem read_of_assign (h : Tidy registry s)
    (ha : s.assign registry tier scope id name v = .ok s') (hk : Slot.of? tier id name = some k) :
    ∃ cell, s'.slot? k = some cell ∧ s'.memory.read cell = v := by
  rcases State.assign_cases ha with ⟨cell, hcell, rfl⟩ | ⟨-, -, rfl⟩
  · rw [inTier?_of_slot hk] at hcell
    refine ⟨cell, ?_, s.memory.read_write cell v (h.allocated k cell hcell)⟩
    cases k <;> exact hcell
  · refine ⟨s.memory.cells.size, ?_, ?_⟩
    · rw [State.slot?_place, if_pos hk]
    · rw [memory_place hk]
      exact s.memory.read_newCell v

theorem slot_eq_none (h : Tidy registry s) (hk : (s.slot? k).isSome) (k' : Slot)
    (hname : k'.name = k.name) (hholder : k'.holder ≠ k.holder) : s.slot? k' = none := by
  cases hk' : s.slot? k' with
  | none => rfl
  | some cell => exact absurd (h.apart k' k hname (by rw [hk']; rfl) hk) hholder

/-- **No one hides a variable of the world or of the program.** -/
theorem lookUp_of_assign (h : Tidy registry s) (ht : tier = .world ∨ tier = .program)
    (ha : s.assign registry tier scope id name v = .ok s') : s'.SeenByAll name v := by
  intro scope' actor hn
  have h' : Tidy registry s' := h.change (.assign ha)
  unfold State.lookUp? State.lookUpStored?
  rcases ht with rfl | rfl
  · obtain ⟨cell, hcell, hread⟩ := read_of_assign h ha (k := .world name) rfl
    have hk : (s'.slot? (.world name)).isSome := by rw [hcell]; rfl
    have hlocal := slot_eq_none h' hk (.characterLocal actor name) rfl (by simp [Slot.holder])
    have hglobal := slot_eq_none h' hk (.characterGlobal actor name) rfl (by simp [Slot.holder])
    have hprogram := slot_eq_none h' hk (.program name) rfl (by simp [Slot.holder])
    simp only [State.stored?_eq, Slot.of?, Option.bind_some, hn, hlocal, hglobal, hprogram, hcell]
    exact congrArg some hread
  · obtain ⟨cell, hcell, hread⟩ := read_of_assign h ha (k := .program name) rfl
    have hk : (s'.slot? (.program name)).isSome := by rw [hcell]; rfl
    have hlocal := slot_eq_none h' hk (.characterLocal actor name) rfl (by simp [Slot.holder])
    have hglobal := slot_eq_none h' hk (.characterGlobal actor name) rfl (by simp [Slot.holder])
    simp only [State.stored?_eq, Slot.of?, Option.bind_some, hn, hlocal, hglobal, hcell]
    exact congrArg some hread

end Assign

theorem name_eq_ok {ctx : Context} {index : Nat} {name : String} {s t : State}
    (h : ctx.name index s = .ok name t) : (ctx.param index).literalText? = some name ∧ t = s := by
  unfold Context.name at h
  cases hp : (ctx.param index).literalText? with
  | some text =>
    rw [hp] at h
    cases h
    exact ⟨rfl, rfl⟩
  | none =>
    rw [hp] at h
    cases h

/-- A command that sets a variable evaluates its value and then sets the name. -/
theorem settle_set {program : Program} {fuel : Nat} {ctx : Context} {c : Command} {s s' : State}
    {r : Settled} {type : CommandType} {tier : Tier}
    (htype : program.registry.get? c.name = some type) (hb : type.behaviour = .set tier)
    (h : settle program fuel ctx c s = .ok r s') :
    ∃ fuel' name v t, (c.param 0).literalText? = some name ∧
      evaluate program (settle program fuel') (ctx.child c) (c.param 1) s = .ok v t ∧
      t.assign program.registry tier ctx.scope ctx.actor.id name v = .ok s' := by
  obtain ⟨signature, behaviour⟩ := type
  cases hb
  cases fuel with
  | zero => cases h
  | succ fuel =>
    obtain ⟨o, u, hexecute, hultimate⟩ := Run.bind_eq_ok h
    unfold execute at hexecute
    rw [htype] at hexecute
    unfold perform Context.setVariable at hexecute
    obtain ⟨name, u₀, hname, hset⟩ := Run.bind_eq_ok hexecute
    obtain ⟨v, t, hv, hset⟩ := Run.bind_eq_ok hset
    obtain ⟨⟨⟩, u₁, hassign, hunit⟩ := Run.bind_eq_ok hset
    obtain ⟨hliteral, rfl⟩ := name_eq_ok hname
    cases hunit
    rw [Outcome.unit, ultimate] at hultimate
    cases hultimate
    exact ⟨fuel, name, v, t, hliteral, hv, Run.assign_eq_ok (Run.atLine_eq_ok hassign)⟩

/-- **Names are apart in every state that can be reached.** A name has at most one holder: the
world, the program, or the characters. It is neither the name of a command nor reserved, and no
character is kept without variables. A variable of the world or of the program that a command has
set is seen by every actor with the value it was set to. -/
theorem Reached.names_apart {program : Program} {s : State} (h : Reached program.registry s) :
    (∀ name holder holder', s.Holds holder name → s.Holds holder' name → holder = holder') ∧
    (∀ name holder, s.Holds holder name →
      program.registry.hasCommand name = false ∧ isReserved name = false) ∧
    (∀ id names, s.own.byCharacter.get? id = some names ∨ s.world.byCharacter.get? id = some names →
      names.isEmpty = false) ∧
    (∀ fuel ctx c type tier r s', tier = .world ∨ tier = .program →
      program.registry.get? c.name = some type → type.behaviour = .set tier →
      settle program fuel ctx c s = .ok r s' →
      ∃ fuel' name v t, (c.param 0).literalText? = some name ∧
        evaluate program (settle program fuel') (ctx.child c) (c.param 1) s = .ok v t ∧
        s'.SeenByAll name v) := by
  have htidy := h.tidy
  refine ⟨?_, ?_, ?_, ?_⟩
  · rintro name holder holder' ⟨k, rfl, rfl, hk⟩ ⟨k', rfl, hname, hk'⟩
    exact htidy.apart k k' hname.symm hk hk'
  · rintro name holder ⟨k, -, rfl, hk⟩
    exact htidy.free k hk
  · rintro id names (hn | hn)
    · exact htidy.filled.1 id names hn
    · exact htidy.filled.2 id names hn
  · intro fuel ctx c type tier r s' ht htype hb hsettle
    obtain ⟨fuel', name, v, t, hname, hv, ha⟩ := settle_set htype hb hsettle
    -- the evaluation of the value may have run other commands, which leave the stores tidy
    have hchanges := evaluate_changes program fuel' (ctx.child c) (c.param 1) s
    rw [Run.after_of_ok hv] at hchanges
    exact ⟨fuel', name, v, t, hname, hv, lookUp_of_assign (htidy.changes hchanges) ht ha⟩

/-! ### An example -/

/-- The script of the one line `SET-FOR-WORLD: A = "x"`. -/
def markScript : Script where
  labels := Table.empty
  lineLabels := Table.empty
  commands := ⟨[(0, ⟨"SET-FOR-WORLD", [.value (.text "A"), .value (.text "x")], 0⟩)]⟩
  startLine := 0
  lineCount := 1

/-- The script under the commands of the language. -/
def markProgram : Program where
  script := markScript
  registry := Registry.builtin

/-- The state after one run from empty stores. -/
def marked : State := (markProgram.runWithin 1 { actor := ⟨"c1", "BOB"⟩ }).after {}

/-- The command `SET-FOR-WORLD: A = "y"`. -/
def markAgain : Command := ⟨"SET-FOR-WORLD", [.value (.text "A"), .value (.text "y")], 0⟩

/-- The state after `markAgain` on top of the first run. -/
def markedAgain (ctx : Context) : State := (settle markProgram 1 ctx markAgain).after marked

theorem names_apart_marked :
    marked.Holds .world "A" ∧ ¬ marked.Holds .characters "A" ∧
      ∀ ctx, (markedAgain ctx).SeenByAll "A" (.text "y") := by
  have hreached : Reached markProgram.registry marked := .run 1 _ rfl (.start rfl rfl)
  obtain ⟨hone, -, -, hseen⟩ := hreached.names_apart
  have hworld : marked.Holds .world "A" := ⟨.world "A", rfl, rfl, rfl⟩
  refine ⟨hworld, fun hcharacters => ?_, fun ctx => ?_⟩
  · cases hone "A" .world .characters hworld hcharacters
  · obtain ⟨fuel, name, v, t, hname, hv, hall⟩ := hseen 1 ctx markAgain
      (Registry.setCommand "SET-FOR-WORLD" .world) .world (.value .unit) (markedAgain ctx)
      (.inl rfl) rfl rfl rfl
    cases hname
    cases hv
    exact hall

end StageScript
