import StageScript.Proofs.Engine.Change
import StageScript.Proofs.Store.Slot

/-!
# What a run cannot reach

A run reaches a cell only through a name: a name of its scope, or one that the stores hold for its
actor. A `Veil` hides some cells, some scopes and some slots of the stores. It is `Sound` for a
state if nothing outside of it holds a hidden cell. Then a run that starts in front of the veil
never gets behind it, and what is hidden stays as it was:

* every single step that such a run can take keeps what is hidden and keeps the veil sound
  (`Veil.Step`; one lemma for each kind of step);
* so does every command (`Obeys.settle`), every frame (`Obeys.follow`) and every run
  (`Obeys.runWithin`), whether it ends with a result or stops early.

All this is about the commands of the language. Only those that are aimed at other characters can
reach a hidden slot, and therefore these are subject to a condition (`Veil.Spares`).
-/

namespace StageScript

open Relation (ReflTransGen)

/-- **A set of cells, scopes and slots to be hidden.** -/
structure Veil where
  cells : CellId → Prop
  scopes : ScopeId → Prop
  slots : Slot → Prop

namespace Veil

variable (V : Veil)

/-- A cell that exists and is not hidden. -/
def Open (s : State) (cell : CellId) : Prop := cell < s.memory.cells.size ∧ ¬ V.cells cell

/-- No slot that a name can have for a character is hidden. -/
def Shows (id : String) : Prop := ∀ tier name k, Slot.of? tier id name = some k → ¬ V.slots k

/-- **Nothing in front of the veil holds a hidden cell.** -/
structure Sound (s : State) : Prop where
  cell_lt : ∀ cell, V.cells cell → cell < s.memory.cells.size
  scope_lt : ∀ scope, V.scopes scope → scope < s.memory.scopes.size
  slot : ∀ k cell, ¬ V.slots k → s.slot? k = some cell → V.Open s cell
  name : ∀ scope name cell, ¬ V.scopes scope → s.memory.cellIn? scope name = some cell →
    V.Open s cell

/-- **All that is hidden is as it was.** -/
structure Keeps (s t : State) : Prop where
  cells_le : s.memory.cells.size ≤ t.memory.cells.size
  scopes_le : s.memory.scopes.size ≤ t.memory.scopes.size
  read : ∀ cell, V.cells cell → t.memory.read cell = s.memory.read cell
  names : ∀ scope, V.scopes scope → t.memory.names scope = s.memory.names scope
  slot : ∀ k, V.slots k → t.slot? k = s.slot? k

/-- One step of a run in front of the veil. -/
structure Step (registry : Registry) (s t : State) : Prop where
  change : Change registry s t
  keeps : V.Keeps s t
  sound : V.Sound t

/-- Any number of steps. -/
abbrev Steps (registry : Registry) : State → State → Prop := ReflTransGen (V.Step registry)

variable {V} {registry : Registry} {r s t : State}

theorem Open.mono {cell : CellId} (h : V.Open s cell)
    (hle : s.memory.cells.size ≤ t.memory.cells.size) : V.Open t cell :=
  ⟨Nat.lt_of_lt_of_le h.1 hle, h.2⟩

namespace Keeps

theorem refl (s : State) : V.Keeps s s where
  cells_le := Nat.le_refl _
  scopes_le := Nat.le_refl _
  read _ _ := rfl
  names _ _ := rfl
  slot _ _ := rfl

theorem trans (h : V.Keeps r s) (h' : V.Keeps s t) : V.Keeps r t where
  cells_le := Nat.le_trans h.cells_le h'.cells_le
  scopes_le := Nat.le_trans h.scopes_le h'.scopes_le
  read cell hc := (h'.read cell hc).trans (h.read cell hc)
  names scope hs := (h'.names scope hs).trans (h.names scope hs)
  slot k hk := (h'.slot k hk).trans (h.slot k hk)

end Keeps

namespace Steps

theorem keeps (h : V.Steps registry s t) : V.Keeps s t := by
  induction h with
  | refl => exact .refl s
  | tail _ hstep ih => exact ih.trans hstep.keeps

theorem sound (h : V.Steps registry s t) (hs : V.Sound s) : V.Sound t := by
  cases h with
  | refl => exact hs
  | tail _ hstep => exact hstep.sound

/-- What is hidden is as it was at the start in each state on the way. -/
theorem keeps_throughout (h : V.Steps registry s t) :
    ReflTransGen (fun a b => Change registry a b ∧ V.Keeps s b) s t := by
  induction h with
  | refl => exact .refl
  | tail hsteps hstep ih => exact ih.tail ⟨hstep.change, (keeps hsteps).trans hstep.keeps⟩

end Steps

/-! ### Steps in front of the veil -/

namespace Sound

/-- A change by which slots and names in front of the veil get none but open cells. -/
theorem of_le (h : V.Sound s) (hcells : s.memory.cells.size ≤ t.memory.cells.size)
    (hscopes : s.memory.scopes.size ≤ t.memory.scopes.size)
    (hslot : ∀ k cell, ¬ V.slots k → t.slot? k = some cell →
      s.slot? k = some cell ∨ V.Open t cell)
    (hname : ∀ scope name cell, ¬ V.scopes scope → t.memory.cellIn? scope name = some cell →
      s.memory.cellIn? scope name = some cell ∨ V.Open t cell) : V.Sound t where
  cell_lt cell hc := Nat.lt_of_lt_of_le (h.cell_lt cell hc) hcells
  scope_lt scope hs := Nat.lt_of_lt_of_le (h.scope_lt scope hs) hscopes
  slot k cell hvk hcell := by
    rcases hslot k cell hvk hcell with hold | hopen
    · exact (h.slot k cell hvk hold).mono hcells
    · exact hopen
  name scope name cell hvs hcell := by
    rcases hname scope name cell hvs hcell with hold | hopen
    · exact (h.name scope name cell hvs hold).mono hcells
    · exact hopen

variable (h : V.Sound s)
include h

/-- Such a change is a step, if what is hidden stays as it was. -/
theorem step (hc : Change registry s t) (hk : V.Keeps s t)
    (hslot : ∀ k cell, ¬ V.slots k → t.slot? k = some cell →
      s.slot? k = some cell ∨ V.Open t cell)
    (hname : ∀ scope name cell, ¬ V.scopes scope → t.memory.cellIn? scope name = some cell →
      s.memory.cellIn? scope name = some cell ∨ V.Open t cell) : V.Step registry s t :=
  ⟨hc, hk, h.of_le hk.cells_le hk.scopes_le hslot hname⟩

theorem write {cell : CellId} (hcell : ¬ V.cells cell) (v : Value) :
    V.Step registry s { s with memory := s.memory.write cell v } := by
  have hk : V.Keeps s { s with memory := s.memory.write cell v } :=
    { Keeps.refl s with
      cells_le := Nat.le_of_eq (s.memory.size_write cell v).symm
      read := fun other ho => s.memory.read_write_of_ne cell v fun he => hcell (he ▸ ho) }
  exact h.step (.write s cell v) hk (fun _ _ _ => .inl) fun _ _ _ _ => .inl

theorem bind {scope : ScopeId} (hscope : ¬ V.scopes scope) (name : String) {cell : CellId}
    (hcell : V.Open s cell) :
    V.Step registry s { s with memory := s.memory.bind scope name cell } := by
  have hk : V.Keeps s { s with memory := s.memory.bind scope name cell } :=
    { Keeps.refl s with
      scopes_le := Nat.le_of_eq Array.size_setIfInBounds.symm
      names := fun other ho =>
        s.memory.names_bind_of_ne cell scope name fun he => hscope (he ▸ ho) }
  refine h.step (.bind s scope name cell) hk (fun _ _ _ => .inl) ?_
  intro other name' c _ hc
  rcases s.memory.cellIn?_of_bind cell scope name hc with ⟨-, -, rfl⟩ | hold
  · exact .inr hcell
  · exact .inl hold

theorem newScope : V.Step registry s { s with memory := s.memory.newScope.2 } := by
  have hk : V.Keeps s { s with memory := s.memory.newScope.2 } :=
    { Keeps.refl s with
      scopes_le := Nat.le_of_lt (Nat.lt_of_lt_of_eq (Nat.lt_succ_self _) (Array.size_push _).symm)
      names := fun scope _ => s.memory.names_newScope scope }
  refine h.step (.newScope s) hk (fun _ _ _ => .inl) ?_
  intro scope name cell _ hcell
  exact .inl ((s.memory.cellIn?_newScope scope name).symm.trans hcell)

/-- A new cell, with a name for it in the open. -/
theorem place {tier : Tier} {scope : ScopeId} {id name : String} {v : Value}
    (hscope : ¬ V.scopes scope) (hslot : ∀ k, Slot.of? tier id name = some k → ¬ V.slots k)
    (ht : t = State.place { s with memory := (s.memory.newCell v).2 } tier scope id name
      s.memory.cells.size) : V.Keeps s t ∧ V.Sound t := by
  have hcells : t.memory.cells = (s.memory.newCell v).2.cells := by
    rw [ht, State.cells_place]
  have hsize : s.memory.cells.size < t.memory.cells.size := by
    rw [hcells, s.memory.size_newCell]
    exact Nat.lt_succ_self _
  have hplaced : ∀ k, t.slot? k =
      if Slot.of? tier id name = some k then some s.memory.cells.size else s.slot? k := by
    intro k
    rw [ht, State.slot?_place]
    rfl
  have hk : V.Keeps s t :=
    { cells_le := Nat.le_of_lt hsize
      scopes_le := Nat.le_of_eq (ht ▸ State.scopes_size_place _ _ _ _ _ _).symm
      read := fun cell hc => by
        unfold Memory.read
        rw [hcells]
        exact s.memory.read_newCell_of_lt v (h.cell_lt cell hc)
      names := fun other ho => by
        have hne : other ≠ scope := fun he => hscope (he ▸ ho)
        rw [ht, State.names_place_of_ne _ _ _ _ _ _ hne]
        rfl
      slot := fun k hvk => by rw [hplaced, if_neg fun he => hslot k he hvk] }
  have hopen : V.Open t s.memory.cells.size :=
    ⟨hsize, fun hc => Nat.lt_irrefl _ (h.cell_lt _ hc)⟩
  refine ⟨hk, h.of_le hk.cells_le hk.scopes_le (fun k cell _ hc => ?_)
    fun other name' cell _ hc => ?_⟩
  · rw [hplaced] at hc
    split at hc
    · cases hc
      exact .inr hopen
    · exact .inl hc
  · rw [ht] at hc
    rcases State.cellIn?_of_place _ _ _ _ _ _ hc with ⟨-, -, rfl⟩ | hold
    · exact .inr hopen
    · exact .inl hold

theorem set {scope : ScopeId} (hscope : ¬ V.scopes scope) (name : String) (v : Value) :
    V.Step registry s { s with memory := s.memory.set scope name v } := by
  rcases s.memory.set_cases v scope name with ⟨cell, hcell, he⟩ | ⟨-, he⟩
  · have hstep : V.Step registry s { s with memory := s.memory.write cell v } :=
      h.write (h.name scope name cell hscope hcell).2 v
    rw [← he] at hstep
    exact hstep
  · -- a name of a scope is a variable of the temporary tier, whoever the actor is
    have hplace : ({ s with memory := s.memory.set scope name v } : State) = State.place
        { s with memory := (s.memory.newCell v).2 } .temp scope "" name s.memory.cells.size := by
      rw [he]
      rfl
    obtain ⟨hkeeps, hsound⟩ := h.place hscope (fun k hk => by cases hk) hplace
    exact ⟨.set s scope name v, hkeeps, hsound⟩

theorem inTier (tier : Tier) {scope : ScopeId} {id name : String} {cell : CellId}
    (hscope : ¬ V.scopes scope) (hid : V.Shows id)
    (hcell : s.inTier? tier scope id name = some cell) : V.Open s cell := by
  cases tier with
  | temp => exact h.name scope name cell hscope hcell
  | characterLocal => exact h.slot _ cell (hid .characterLocal name _ rfl) hcell
  | characterGlobal => exact h.slot _ cell (hid .characterGlobal name _ rfl) hcell
  | program => exact h.slot _ cell (hid .program name _ rfl) hcell
  | world => exact h.slot _ cell (hid .world name _ rfl) hcell

theorem assign {tier : Tier} {scope : ScopeId} {id name : String} {v : Value}
    (hscope : ¬ V.scopes scope) (hid : V.Shows id)
    (ha : s.assign registry tier scope id name v = .ok t) : V.Step registry s t := by
  rcases State.assign_cases ha with ⟨cell, hcell, rfl⟩ | ⟨-, -, rfl⟩
  · exact h.write (h.inTier tier hscope hid hcell).2 v
  · obtain ⟨hkeeps, hsound⟩ := h.place hscope (hid tier name) rfl
    exact ⟨.assign ha, hkeeps, hsound⟩

theorem unassign {scope : ScopeId} {id : String} (hscope : ¬ V.scopes scope) (hid : V.Shows id)
    (tier : Tier) (name : String) : V.Step registry s (s.unassign tier scope id name) := by
  have hk : V.Keeps s (s.unassign tier scope id name) :=
    { cells_le := Nat.le_of_eq (congrArg Array.size (s.cells_unassign tier scope id name)).symm
      scopes_le := Nat.le_of_eq (s.scopes_size_unassign tier scope id name).symm
      read := fun cell _ => by
        unfold Memory.read
        rw [s.cells_unassign]
      names := fun other ho =>
        s.names_unassign_of_ne tier scope id name fun he => hscope (he ▸ ho)
      slot := fun k hvk => by
        rw [s.slot?_unassign, if_neg fun he => hid tier name k he hvk] }
  refine h.step (.unassign s tier scope id name) hk (fun k cell _ hc => ?_)
    fun other name' cell _ hc => ?_
  · rw [s.slot?_unassign] at hc
    split at hc
    · cases hc
    · exact .inl hc
  · exact .inl (s.cellIn?_of_unassign tier scope id name hc)

theorem choose (place : Occurrence) (choice : Choice) :
    V.Step registry s (s.choose place choice) := by
  have hk : V.Keeps s (s.choose place choice) := { Keeps.refl s with }
  exact h.step (.choose s place choice) hk (fun _ _ _ => .inl) fun _ _ _ _ => .inl

theorem note (entry : LogEntry) : V.Step registry s (s.note entry) := by
  have hk : V.Keeps s (s.note entry) := { Keeps.refl s with }
  exact h.step (.note s entry) hk (fun _ _ _ => .inl) fun _ _ _ _ => .inl

/-- **A name leads to an open cell.** -/
theorem lookUp {scope : ScopeId} {id name : String} {cell : CellId} (hscope : ¬ V.scopes scope)
    (hid : V.Shows id) (hcell : s.lookUp? scope id name = some cell) : V.Open s cell := by
  simp only [State.lookUp?, State.lookUpStored?, Option.orElse_eq_orElse, Option.orElse_eq_or,
    Option.or_eq_some_iff] at hcell
  rcases hcell with hcell | ⟨-, hcell | ⟨-, hcell | ⟨-, hcell | ⟨-, hcell⟩⟩⟩⟩
  · exact h.name scope name cell hscope hcell
  · exact h.inTier .characterLocal hscope hid hcell
  · exact h.inTier .characterGlobal hscope hid hcell
  · exact h.inTier .program hscope hid hcell
  · exact h.inTier .world hscope hid hcell

end Sound

end Veil

/-! ### Runs in front of the veil -/

/-- Started where the veil is sound, a run takes no steps but those in front of it. The relation is
about the first run alone. -/
def Obeys (V : Veil) (registry : Registry) (α : Type) (m _m' : Run α) : Prop :=
  ∀ s, V.Sound s → V.Steps registry s (m.after s)

/-- A context that lies in front of the veil. -/
structure Veil.InFront (V : Veil) (ctx : Context) : Prop where
  scope : ¬ V.scopes ctx.scope
  actor : V.Shows ctx.actor.id

/-- Where a command within `c` is aimed at other characters, all characters are in front. -/
def Veil.Spares (V : Veil) (program : Program) (c : Command) : Prop :=
  ∀ d, Command.Within d c → ∀ type, program.registry.get? d.name = some type →
    type.behaviour.isTargeted = true → ∀ id, V.Shows id

/-- The outcomes of a command that lead to nothing behind the veil. -/
def Veil.Admits (V : Veil) (c : Command) : Outcome → Prop
  | .tailCall d => d ∈ c.inner
  | .jump j => ¬ V.scopes j.scope
  | .value _ | .signal _ => True

theorem Veil.Admits.of_isFinal {V : Veil} {c : Command} :
    ∀ {outcome : Outcome}, outcome.IsFinal → V.Admits c outcome
  | .value _, _ | .signal _, _ => trivial

theorem Veil.Spares.inner {V : Veil} {program : Program} {c d : Command} (h : V.Spares program c)
    (hd : d ∈ c.inner) : V.Spares program d :=
  fun e he => h e (he.trans (.inner hd (.refl d)))

namespace Obeys

open Run (after_of_ok)

variable {V : Veil} {registry : Registry} {α β : Type} {m m' : Run α} {s : State}

theorem of_refl (h : ∀ s, m.after s = s) : Obeys V registry α m m' := by
  intro s _
  rw [h]

theorem of_step (h : ∀ s, V.Sound s → V.Step registry s (m.after s)) : Obeys V registry α m m' :=
  fun s hs => .single (h s hs)

/-- The second run may count on what the first one finds where the veil is sound. -/
theorem bind_of {f f' : α → Run β} (hm : Obeys V registry α m m') {P : α → Prop}
    (hP : ∀ s a t, V.Sound s → m s = .ok a t → P a)
    (hf : ∀ a, P a → Obeys V registry β (f a) (f' a)) :
    Obeys V registry β (m >>= f) (m' >>= f') :=
  fun s hs => Run.steps_bind (hm s hs) fun a t h hsteps =>
    hf a (hP s a t hs h) t (Veil.Steps.sound hsteps hs)

theorem bind {f f' : α → Run β} (hm : Obeys V registry α m m')
    (hf : ∀ a, m.Returns a → Obeys V registry β (f a) (f' a)) :
    Obeys V registry β (m >>= f) (m' >>= f') :=
  hm.bind_of (fun s _ t _ h => ⟨s, t, h⟩) hf

theorem choice (ctx : Context) (place : Occurrence) (left : Value) :
    Obeys V registry Choice (ctx.choice place left) (ctx.choice place left) := fun _ hs =>
  Run.steps_choice ctx place left fun choice => hs.choose place choice

theorem atLine (line : Nat) (hm : Obeys V registry α m m') :
    Obeys V registry α (m.atLine line) (m'.atLine line) := by
  intro s hs
  rw [Run.after_atLine]
  exact hm s hs

/-- Evaluation stays in front of every veil. -/
theorem quiet (V : Veil) (registry : Registry) : Quiet (Obeys V registry) where
  pure _ := of_refl fun _ => rfl
  fail _ _ := of_refl fun _ => rfl
  bind := bind
  memory := of_refl fun _ => rfl
  lookUp _ _ := of_refl fun _ => rfl
  operate ctx place left _ _ hr :=
    bind (choice ctx place left) fun _ _ => bind hr fun _ _ =>
      of_refl fun _ => Run.after_ofExcept _ _

theorem lax : Lax (Obeys V registry) := fun _ => of_refl fun _ => rfl

/-! ### What a command does in its context -/

/-- A new scope is in front of the veil. -/
theorem newScope_bind {k k' : ScopeId → Run β}
    (hk : ∀ scope, ¬ V.scopes scope → Obeys V registry β (k scope) (k' scope)) :
    Obeys V registry β (Run.newScope >>= k) (Run.newScope >>= k') := by
  have hnew : Obeys V registry ScopeId Run.newScope Run.newScope :=
    of_step fun _ hs => hs.newScope
  refine hnew.bind_of ?_ hk
  intro s scope t hs h
  cases h
  exact fun hv => Nat.lt_irrefl _ (hs.scope_lt _ hv)

theorem setIn {scope : ScopeId} (hscope : ¬ V.scopes scope) (name : String) (v : Value) :
    Obeys V registry Unit (Run.setIn scope name v) (Run.setIn scope name v) :=
  of_step fun _ hs => hs.set hscope name v

section Character

variable {scope : ScopeId} {id : String} (hscope : ¬ V.scopes scope) (hid : V.Shows id)
include hscope hid

theorem assign (tier : Tier) (name : String) (v : Value) :
    Obeys V registry Unit (Run.assign registry tier scope id name v)
      (Run.assign registry tier scope id name v) := by
  intro s hs
  exact Run.steps_assign fun _ h => hs.assign hscope hid h

theorem unassign (tier : Tier) (name : String) :
    Obeys V registry Unit (Run.unassign tier scope id name) (Run.unassign tier scope id name) :=
  of_step fun _ hs => hs.unassign hscope hid tier name

end Character

section InContext

variable {program : Program} {ctx : Context}

theorem targets (hscope : ¬ V.scopes ctx.scope) (hall : ∀ id, V.Shows id) :
    Targets (Obeys V program.registry) program ctx := fun tier name id =>
  ⟨fun v => atLine _ (assign hscope (hall id) tier name v),
    unassign hscope (hall id) tier name⟩

theorem resolve_eq_ok {name : String} {cell : CellId} {t : State}
    (h : ctx.resolve name s = .ok cell t) :
    t = s ∧ s.lookUp? ctx.scope ctx.actor.id name = some cell := by
  obtain ⟨found, r, hr, h⟩ := Run.bind_eq_ok h
  cases hr
  cases hfound : s.lookUp? ctx.scope ctx.actor.id name with
  | some c =>
    rw [hfound] at h
    cases h
    exact ⟨rfl, rfl⟩
  | none =>
    rw [hfound] at h
    cases h

variable (hctx : V.InFront ctx)
include hctx

theorem open_of_resolve {name : String} {cell : CellId} {t : State} (hs : V.Sound s)
    (h : ctx.resolve name s = .ok cell t) : t = s ∧ V.Open s cell := by
  obtain ⟨ht, hcell⟩ := resolve_eq_ok h
  exact ⟨ht, hs.lookUp hctx.scope hctx.actor hcell⟩

/-- Binding a name of an open scope to the cell of a variable. -/
theorem resolve_bind {scope : ScopeId} (hscope : ¬ V.scopes scope) (name source : String) :
    Obeys V registry Unit (ctx.resolve source >>= Run.bind scope name)
      (ctx.resolve source >>= Run.bind scope name) := by
  intro s hs
  refine Run.steps_bind ((quiet V registry).resolve source s hs) fun cell t h _ => ?_
  obtain ⟨rfl, hcell⟩ := open_of_resolve hctx hs h
  exact .single (hs.bind hscope name hcell)

theorem shareCell (name source : String) :
    Obeys V program.registry Outcome (ctx.shareCell program name source)
      (ctx.shareCell program name source) := by
  intro s hs
  refine Run.steps_bind ((quiet V program.registry).resolve source s hs) fun cell t h _ => ?_
  obtain ⟨rfl, hcell⟩ := open_of_resolve hctx hs h
  refine Run.steps_bind .refl fun memory r hr _ => ?_
  cases hr
  dsimp only
  split
  · have hassign : Obeys V program.registry Unit (ctx.assign program .temp name .unit)
        (ctx.assign program .temp name .unit) :=
      atLine _ (assign hctx.scope hctx.actor .temp name .unit)
    refine Run.steps_bind (hassign _ hs) fun _ r _ hsteps => ?_
    refine Run.steps_bind (.single ?_) fun _ _ _ _ => .refl
    -- the cell is still there once the name has been made
    exact (Veil.Steps.sound hsteps hs).bind hctx.scope name
      (hcell.mono (Veil.Steps.keeps hsteps).cells_le)
  · exact Run.steps_bind (.single (hs.bind hctx.scope name hcell)) fun _ _ _ _ => .refl

/-- **What a command does in a context in front of the veil stays in front of it.** -/
theorem inContext : CongruenceIn (Obeys V program.registry) program ctx where
  toQuiet := quiet V program.registry
  resolved name _ _ hk :=
    ((quiet V program.registry).resolve name).bind_of (P := fun cell => ¬ V.cells cell)
      (fun _ _ _ hs h => (open_of_resolve hctx hs h).2.2)
      fun cell hcell => hk cell fun v => of_step fun _ hs => hs.write hcell v
  shareCell := shareCell hctx
  inNewScope hk :=
    newScope_bind fun scope hscope => hk scope (resolve_bind hctx hscope) (setIn hscope)
  assign tier name v := atLine _ (assign hctx.scope hctx.actor tier name v)
  unassign tier name := unassign hctx.scope hctx.actor tier name

end InContext

/-! ### Settling in front of the veil -/

section Settle

variable {program : Program} {settle : Settle} {budget : Nat} {ctx : Context} {c : Command}
  (hlanguage : program.registry.OfLanguage)

include hlanguage in
/-- **A jump never leads to a hidden scope**: a `GO-TO` keeps the scope, and a `DO` makes one. -/
theorem admits_of_execute (hctx : V.InFront ctx) {s t : State} {outcome : Outcome} (hs : V.Sound s)
    (h : execute program settle budget ctx c s = .ok outcome t) : V.Admits c outcome := by
  have hhost : ∀ type, program.registry.get? c.name = some type →
      type.behaviour.isHost = false := fun _ => hlanguage.isHost
  cases outcome with
  | value v => trivial
  | signal signal => trivial
  | tailCall d => exact execute_fits (.tailCall d) ⟨s, t, h⟩
  | jump j =>
    cases hkind : j.kind with
    | goTo =>
      show ¬ V.scopes j.scope
      rw [execute_keepsScope hhost (.jump j) ⟨s, t, h⟩ hkind]
      exact hctx.scope
    | call =>
      obtain ⟨line, r, hline, -, hj⟩ := call_eq_ok (execute_call hhost h hkind)
      cases hj
      have htarget : Obeys V program.registry Nat ((ctx.child c).labelTarget program 0)
        ((ctx.child c).labelTarget program 0) := (quiet V _).labelTarget 0
      have hsteps := htarget s hs
      rw [after_of_ok hline] at hsteps
      exact fun hv => Nat.lt_irrefl _ ((Veil.Steps.sound hsteps hs).scope_lt _ hv)

variable (hlines : ∀ line d, program.script.commandAt? line = some d → V.Spares program d)
  (hsettle : ∀ ctx c, V.InFront ctx → V.Spares program c →
    Obeys V program.registry Settled (settle ctx c) (settle ctx c))

include hlines hsettle in
theorem frameRun {frame : Frame} (hscope : ¬ V.scopes frame.scope)
    (hactor : V.Shows frame.actor.id) (start : Nat) :
    Obeys V program.registry Exit (frame.run program settle start)
      (frame.run program settle start) :=
  (quiet V _).frameRun
    (fun _ line d hline => atLine line (hsettle _ d ⟨hscope, hactor⟩ (hlines line d hline))) start

include hlines hsettle in
theorem follow (hactor : V.Shows ctx.actor.id) {j : Jump} (hj : ¬ V.scopes j.scope) :
    Obeys V program.registry Outcome (follow program settle ctx j)
      (follow program settle ctx j) :=
  (quiet V _).bind (frameRun hlines hsettle hj hactor j.line) fun _ _ => (quiet V _).pure _

include hlanguage hsettle in
theorem execute (hctx : V.InFront ctx) (hc : V.Spares program c) :
    Obeys V program.registry Outcome (execute program settle budget ctx c)
      (execute program settle budget ctx c) := by
  have hchild : V.InFront (ctx.child c) := ⟨hctx.scope, hctx.actor⟩
  refine (inContext hchild).execute ?_ ?_ ?_ ?_
  · intro index d hd
    exact hsettle _ d ⟨hctx.scope, hctx.actor⟩ (hc.inner hd)
  · exact fun _ _ _ => .more lax (Nat.le_refl _)
  · exact fun type htype htarget => targets hctx.scope (hc c (.refl c) type htype htarget)
  · exact fun type htype action haction => absurd haction (hlanguage.ne_host htype action)

include hlanguage hlines hsettle in
theorem ultimate (hctx : V.InFront ctx) (left : Nat) {outcome : Outcome}
    (hc : V.Spares program c) (ho : V.Admits c outcome) :
    Obeys V program.registry Settled (ultimate program settle budget ctx left outcome)
      (ultimate program settle budget ctx left outcome) := by
  induction left generalizing c outcome with
  | zero =>
    cases outcome with
    | value v => exact (quiet V _).pure _
    | signal signal => exact (quiet V _).pure _
    | tailCall d => exact (quiet V _).contextFail _
    | jump j => exact (quiet V _).contextFail _
  | succ left ih =>
    cases outcome with
    | value v => exact (quiet V _).pure _
    | signal signal => exact (quiet V _).pure _
    | tailCall d =>
      have hd : V.Spares program d := hc.inner ho
      exact (execute hlanguage hsettle hctx hd).bind_of (P := V.Admits d)
        (fun _ _ _ hs h => admits_of_execute hlanguage hctx hs h) fun o ho => ih hd ho
    | jump j =>
      exact (quiet V _).bind (follow hlines hsettle hctx.actor ho) fun o ho' =>
        ih hc (.of_isFinal (follow_isFinal j o ho'))

theorem bindHostNames {scope : ScopeId} {actor : Character} (hscope : ¬ V.scopes scope)
    (hactor : V.Shows actor.id) (bindings : List (String × Value)) :
    Obeys V program.registry Unit (program.bindHostNames scope actor bindings)
      (program.bindHostNames scope actor bindings) := by
  induction bindings with
  | nil => exact (quiet V _).pure _
  | cons binding bindings ih =>
    exact (quiet V _).bind (assign hscope hactor .temp _ _) fun _ _ => ih

end Settle

variable {program : Program} (hlanguage : program.registry.OfLanguage)
  (hlines : ∀ line d, program.script.commandAt? line = some d → V.Spares program d)
include hlanguage hlines

/-- **Settling a command stays in front of the veil.** -/
theorem settle (fuel : Nat) (ctx : Context) (c : Command) (hctx : V.InFront ctx)
    (hc : V.Spares program c) :
    Obeys V program.registry Settled (settle program fuel ctx c) (settle program fuel ctx c) := by
  induction fuel generalizing ctx c with
  | zero => exact of_refl fun s => rfl
  | succ fuel ih =>
    exact (execute hlanguage ih hctx hc).bind_of (P := V.Admits c)
      (fun _ _ _ hs h => admits_of_execute hlanguage hctx hs h)
      fun o ho => ultimate hlanguage hlines ih hctx _ hc ho

/-- **A run stays in front of a veil that shows the variables of its actor.** -/
theorem runWithin (fuel : Nat) {request : Request} (hactor : V.Shows request.actor.id) :
    Obeys V program.registry (Option Value) (program.runWithin fuel request)
      (program.runWithin fuel request) := by
  refine newScope_bind fun scope hscope => ?_
  refine (quiet V _).bind (bindHostNames hscope hactor _) fun _ _ => ?_
  exact (quiet V _).bind (frameRun hlines (settle hlanguage hlines fuel) hscope hactor _) fun _ _ =>
    (quiet V _).pure _

end Obeys

end StageScript
