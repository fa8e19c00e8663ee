import StageScript.Proofs.Engine.CalleeScope
import StageScript.Proofs.Source.Labels
import StageScript.Proofs.Source.OneLine
import StageScript.Proofs.Text.Ascii

/-!
# The names a host binds

The names of a host are folded to capitals and set one by one in the order of their keys. The scope
they are set in is new, so no two of its names share a cell (`Memory.Apart`), and each name holds
the value of the last key that folds to it (`valueIn?_bindHostNames`).

For a name in capitals that is the value under the name itself only if no other key folds to it. A
key that does has a letter where the name has a capital, and letters sort behind capitals
(`lt_of_upperCase_eq`); so the name itself comes first and is written over. This happens to the
entity that a script is attached to (`attachedEntity_bound_unless_respelled`): it is bound under its
name in capitals, and a host that spells this name in another way binds something else
(`not_attachedEntity_bound`).
-/

namespace StageScript

/-! ### Keys that fold to a name -/

/-- What has a letter in place of a capital sorts behind it. By induction on the key: up to the
first such letter it has the characters of the name. -/
theorem lt_of_flatMap_capitals {name : List Char} (hname : ∀ c ∈ name, c.toNat < 'a'.toNat) :
    ∀ {key : List Char}, key.flatMap Text.capitals = name → key ≠ name → name < key := by
  intro key
  induction key generalizing name with
  | nil => exact fun hkey hne => absurd hkey hne
  | cons c key ih =>
    intro hkey hne
    by_cases hc : c.toNat < 'a'.toNat
    · have hascii : c.toNat < 128 := Nat.lt_trans hc (by decide)
      have hcapitals : Text.capitals c = [c] :=
        Text.of_ascii (P := fun c => c.toNat < 'a'.toNat → Text.capitals c = [c])
          (by decide +kernel) hascii hc
      rw [List.flatMap_cons, hcapitals] at hkey
      subst hkey
      refine List.cons_lt_cons_iff.mpr (.inr ⟨rfl, ih (fun d hd => hname d ?_) rfl fun h => ?_⟩)
      · exact List.mem_cons_of_mem c hd
      · exact hne (congrArg (c :: ·) h)
    · cases name with
      | nil => exact List.nil_lt_cons c key
      | cons d name =>
        have hd : d.toNat < c.toNat :=
          Nat.lt_of_lt_of_le (hname d List.mem_cons_self) (Nat.le_of_not_lt hc)
        exact List.cons_lt_cons_iff.mpr (.inl hd)

/-- **Another spelling of a name in capitals sorts behind the name.** -/
theorem lt_of_upperCase_eq {name key : String} (hname : ∀ c ∈ name.toList, c.toNat < 'a'.toNat)
    (hkey : Text.upperCase key = name) (hne : key ≠ name) : name < key := by
  refine String.lt_iff.mpr (lt_of_flatMap_capitals hname ?_ fun h => hne (String.toList_inj.mp h))
  rw [← hkey]
  exact (String.toList_ofList).symm

/-- In a table in order, a key that comes first among those of a class is put in front of them. -/
theorem Table.Ordered.filter_insert {κ α : Type} [DecidableEq κ] [LT κ] [DecidableLT κ] [LE κ]
    [Std.LawfulOrderLT κ] [Std.IsLinearOrder κ] {t : Table κ α} (h : t.Ordered) {p : κ → Bool}
    {key : κ} (hkey : p key = true) (hfirst : ∀ k, p k = true → k ≠ key → key < k) (value : α) :
    (t.insert key value).entries.filter (fun e => p e.1) =
      (key, value) :: t.entries.filter fun e => p e.1 && decide (e.1 ≠ key) := by
  have hbehind (es : List (κ × α)) (hes : ∀ e ∈ es, key < e.1) :
      es.filter (fun e => p e.1) = es.filter fun e => p e.1 && decide (e.1 ≠ key) := by
    refine List.filter_congr fun e he => ?_
    have hne : e.1 ≠ key := fun heq => Std.lt_irrefl (heq ▸ hes e he)
    simp [hne]
  obtain ⟨es⟩ := t
  show (insertIn key value es).filter _ = (key, value) :: es.filter _
  induction es with
  | nil => simp [insertIn, hkey]
  | cons e es ih =>
    obtain ⟨k, v⟩ := e
    obtain ⟨hbefore, hrest⟩ := List.pairwise_cons.mp h
    unfold insertIn
    split
    · next hk =>
      subst hk
      rw [List.filter_cons, if_pos hkey, List.filter_cons, if_neg (by simp), hbehind es hbefore]
    · next hne =>
      split
      · next hlt =>
        have hall : ∀ e ∈ (k, v) :: es, key < e.1 :=
          List.forall_mem_cons.mpr ⟨hlt, fun e he => Std.lt_trans hlt (hbefore e he)⟩
        rw [List.filter_cons, if_pos hkey, hbehind _ hall]
      · next hnlt =>
        have hk : ¬ p k = true := fun hk => hnlt (hfirst k hk hne)
        rw [List.filter_cons, if_neg hk, List.filter_cons, if_neg (by simp [hk]), ih hrest]

/-! ### What is set in a scope -/

namespace Memory

/-- What a name of a scope holds. -/
def valueIn? (m : Memory) (scope : ScopeId) (name : String) : Option Value :=
  (m.cellIn? scope name).map m.read

/-- The names of a scope stand for cells that exist, each for one of its own. -/
structure Apart (m : Memory) (scope : ScopeId) : Prop where
  scope_lt : scope < m.scopes.size
  cell_lt : ∀ name cell, m.cellIn? scope name = some cell → cell < m.cells.size
  inj : ∀ name name' cell, m.cellIn? scope name = some cell → m.cellIn? scope name' = some cell →
    name = name'

variable {m : Memory} {scope : ScopeId}

theorem apart_newScope (m : Memory) : m.newScope.2.Apart m.newScope.1 := by
  have hnone (name : String) : m.newScope.2.cellIn? m.newScope.1 name = none :=
    (m.cellIn?_newScope _ name).trans (m.cellIn?_of_size_le _ name (Nat.le_refl _))
  refine ⟨?_, fun name cell h => ?_, fun name name' cell h _ => ?_⟩
  · exact Nat.lt_of_lt_of_eq (Nat.lt_succ_self _) (Array.size_push _).symm
  · cases (hnone name).symm.trans h
  · cases (hnone name).symm.trans h

end Memory

namespace Memory.Apart

variable {m : Memory} {scope : ScopeId} {name : String}

/-- Writing into the cell of a name. -/
theorem write {cell : CellId} (h : m.Apart scope) (v : Value)
    (hcell : m.cellIn? scope name = some cell) :
    (m.write cell v).Apart scope ∧ ∀ other, (m.write cell v).valueIn? scope other =
      if other = name then some v else m.valueIn? scope other := by
  have hlt := h.cell_lt name cell hcell
  refine ⟨⟨h.scope_lt, fun other c hc => ?_, h.inj⟩, fun other => ?_⟩
  · rw [size_write]
    exact h.cell_lt other c hc
  · unfold valueIn?
    show (m.cellIn? scope other).map (m.write cell v).read = _
    by_cases ho : other = name
    · subst ho
      rw [hcell, if_pos rfl, Option.map_some, m.read_write cell v hlt]
    · rw [if_neg ho]
      refine Option.map_congr fun c hc => ?_
      have hne : c ≠ cell := fun heq => ho (h.inj other name c hc (heq ▸ hcell))
      exact m.read_write_of_ne cell v hne

/-- Making a new cell for a name. -/
theorem bind_newCell (h : m.Apart scope) (v : Value) :
    ((m.newCell v).2.bind scope name m.cells.size).Apart scope ∧
      ∀ other, ((m.newCell v).2.bind scope name m.cells.size).valueIn? scope other =
        if other = name then some v else m.valueIn? scope other := by
  have hcellIn (other : String) :
      ((m.newCell v).2.bind scope name m.cells.size).cellIn? scope other =
        if other = name then some m.cells.size else m.cellIn? scope other :=
    (m.newCell v).2.cellIn?_bind name m.cells.size h.scope_lt other
  have hsize : ((m.newCell v).2.bind scope name m.cells.size).cells.size = m.cells.size + 1 :=
    m.size_newCell v
  refine ⟨⟨?_, fun other c hc => ?_, fun other other' c hc hc' => ?_⟩, fun other => ?_⟩
  · exact Nat.lt_of_lt_of_eq h.scope_lt Array.size_setIfInBounds.symm
  · rw [hsize]
    rw [hcellIn] at hc
    split at hc
    · cases hc
      exact Nat.lt_succ_self _
    · exact Nat.lt_succ_of_lt (h.cell_lt other c hc)
  · -- the new cell has one name, and the others had theirs before
    rw [hcellIn] at hc hc'
    split at hc <;> split at hc'
    · next ho ho' => exact ho.trans ho'.symm
    · cases hc
      exact absurd (h.cell_lt other' _ hc') (Nat.lt_irrefl _)
    · cases hc'
      exact absurd (h.cell_lt other _ hc) (Nat.lt_irrefl _)
    · exact h.inj other other' c hc hc'
  · unfold valueIn?
    rw [hcellIn]
    by_cases ho : other = name
    · rw [if_pos ho, if_pos ho, Option.map_some]
      exact congrArg some (m.read_newCell v)
    · rw [if_neg ho, if_neg ho]
      exact Option.map_congr fun c hc => m.read_newCell_of_lt v (h.cell_lt other c hc)

end Memory.Apart

/-- **Setting a temporary name** gives it its value, and no other name another one. -/
theorem State.assign_temp {registry : Registry} {s s' : State} {scope : ScopeId}
    {id name : String} {v : Value} (hs : s.memory.Apart scope)
    (h : s.assign registry .temp scope id name v = .ok s') :
    s'.memory.Apart scope ∧ ∀ other, s'.memory.valueIn? scope other =
      if other = name then some v else s.memory.valueIn? scope other := by
  rcases assign_cases h with ⟨cell, hcell, rfl⟩ | ⟨-, -, rfl⟩
  · exact hs.write v hcell
  · exact hs.bind_newCell v

/-! ### The names of a host -/

/-- The value under the last key that folds to a name. -/
def lastValue? (name : String) (bindings : List (String × Value)) : Option Value :=
  ((bindings.filter fun b => Text.upperCase b.1 = name).map (·.2)).getLast?

/-- **Each name holds the value of the last key that folds to it**, once the names of a host are
set. By induction on the keys that are left. -/
theorem valueIn?_bindHostNames {program : Program} {scope : ScopeId} {actor : Character}
    {bindings : List (String × Value)} {s t : State} (hs : s.memory.Apart scope)
    (h : program.bindHostNames scope actor bindings s = .ok () t) (name : String) :
    t.memory.valueIn? scope name =
      (lastValue? name bindings).or (s.memory.valueIn? scope name) := by
  induction bindings generalizing s with
  | nil =>
    cases h
    rfl
  | cons b bindings ih =>
    obtain ⟨⟨⟩, r, hassign, h⟩ := Run.bind_eq_ok h
    obtain ⟨hr, hvalue⟩ := State.assign_temp hs (Run.assign_eq_ok hassign)
    rw [ih hr h, hvalue]
    unfold lastValue?
    by_cases hb : Text.upperCase b.1 = name
    · simp [hb, List.getLast?_cons]
    · simp [hb, Ne.symm hb]

/-- The frame a run starts with, in a scope of its own. -/
def Request.firstFrame (request : Request) (s : State) : Frame :=
  ⟨request.actor, s.memory.newScope.1, 0, false⟩

/-- Once the names of the host are set, a run is that of its first frame. -/
theorem runWithin_of_setUp {program : Program} {request : Request} {s t : State}
    (h : program.setUp request s = .ok () t) (fuel : Nat) :
    program.runWithin fuel request s = (do
      let how ← (request.firstFrame s).run program (settle program fuel)
        (program.startLine request.start)
      return Program.result how : Run (Option Value)) t := by
  obtain ⟨scope, r, hscope, hbind⟩ := Run.bind_eq_ok h
  unfold Program.runWithin
  rw [Run.bind_of_ok hscope, Run.bind_of_ok hbind]
  cases hscope
  rfl

/-- What a name holds in the scope of a frame is the value of the variable there. -/
theorem evaluate_variable_of_valueIn? {program : Program} {settle : Settle} {ctx : Context}
    {name : String} {v : Value} {s : State} (h : s.memory.valueIn? ctx.scope name = some v) :
    evaluate program settle ctx (.variable name) s = .ok v s := by
  obtain ⟨cell, hcell, rfl⟩ := Option.map_eq_some_iff.mp h
  have hlook : ctx.lookUp? name s = .ok (some cell) s := by
    show EStateM.Result.ok (s.lookUp? ctx.scope ctx.actor.id name) s = _
    unfold State.lookUp?
    rw [hcell]
    rfl
  have hresolve : ctx.resolve name s = .ok cell s := Run.bind_of_ok hlook
  simp only [evaluate]
  rw [Run.bind_of_ok hresolve]
  rfl

/-- The values a host binds under other spellings of a name, in the order of the keys. -/
def Request.respelled (request : Request) (name : String) : List Value :=
  (request.bindings.entries.filter fun b =>
    decide (Text.upperCase b.1 = name) && decide (b.1 ≠ name)).map (·.2)

/-- The attached entity comes before all that the host binds under other spellings of its name. -/
theorem lastValue?_fromEntity {request : Request} (horder : request.bindings.Ordered)
    (entity : Entity) :
    lastValue? attachedEntityName (request.fromEntity entity).bindings.entries =
      some ((request.respelled attachedEntityName).getLastD (.object (.entity entity))) := by
  have hcapitals : attachedEntityName.toList.all (·.toNat < 'a'.toNat) = true := by decide
  have hname : ∀ c ∈ attachedEntityName.toList, c.toNat < 'a'.toNat := fun c hc =>
    of_decide_eq_true (List.all_eq_true.mp hcapitals c hc)
  have hfolds : Text.upperCase attachedEntityName = attachedEntityName := by decide +kernel
  have hfilter := horder.filter_insert
    (p := fun k => decide (Text.upperCase k = attachedEntityName)) (decide_eq_true hfolds)
    (fun k hk => lt_of_upperCase_eq hname (of_decide_eq_true hk)) (.object (.entity entity))
  unfold lastValue? Request.fromEntity
  rw [hfilter, List.map_cons, List.getLast?_cons, List.getLastD_eq_getLast?]
  rfl

/-- **The attached entity is bound unless the host spells its name in another way.** If the names of
the host are accepted, then in the frame that starts the run, whatever command it executes first,
the name of the attached entity has the entity for its value; or, if the host binds other spellings
of the name, the value under the last of them. -/
theorem attachedEntity_bound_unless_respelled {program : Program} {request : Request}
    {entity : Entity} {s t : State} (horder : request.bindings.Ordered)
    (haccepted : program.setUp (request.fromEntity entity) s = .ok () t) (fuel : Nat) :
    program.runWithin fuel (request.fromEntity entity) s = (do
      let how ← (request.firstFrame s).run program (settle program fuel)
        (program.startLine request.start)
      return Program.result how : Run (Option Value)) t ∧
    ∀ c : Command, evaluate program (settle program fuel) ((request.firstFrame s).context c)
        (.variable attachedEntityName) t =
      .ok ((request.respelled attachedEntityName).getLastD (.object (.entity entity))) t := by
  refine ⟨runWithin_of_setUp haccepted fuel, fun c => evaluate_variable_of_valueIn? ?_⟩
  obtain ⟨scope, r, hscope, hbind⟩ := Run.bind_eq_ok haccepted
  cases hscope
  refine (valueIn?_bindHostNames s.memory.apart_newScope hbind attachedEntityName).trans ?_
  rw [lastValue?_fromEntity horder entity]
  rfl

/-- A script without lines and commands. -/
def stillProgram : Program := ⟨default, Table.empty, {}, {}⟩

def door : Entity := ⟨"e1", "DOOR"⟩

/-- A host that binds the name of the attached entity as it is, and another name. -/
def plainRequest : Request where
  actor := ⟨"c1", "BOB"⟩
  bindings := ⟨[(attachedEntityName, .text "x"), ("gold", .text "y")]⟩

/-- A host that binds the name of the attached entity in small letters. -/
def smallRequest : Request where
  actor := ⟨"c1", "BOB"⟩
  bindings := ⟨[("entity-this-script-is-attached-to", .text "x")]⟩

theorem attachedEntity_bound_plain :
    plainRequest.bindings.Ordered ∧ ∃ t,
      stillProgram.setUp (plainRequest.fromEntity door) {} = .ok () t ∧
      ∀ c : Command, evaluate stillProgram (settle stillProgram 1)
          ((plainRequest.firstFrame {}).context c) (.variable attachedEntityName) t =
        .ok (.object (.entity door)) t := by
  have horder : plainRequest.bindings.Ordered := by
    unfold Table.Ordered
    decide
  have haccepted : stillProgram.setUp (plainRequest.fromEntity door) {} = .ok () _ := rfl
  exact ⟨horder, _, haccepted, (attachedEntity_bound_unless_respelled horder haccepted 1).2⟩

/-- **A host can hide the attached entity** by a name in small letters. -/
theorem not_attachedEntity_bound :
    ¬ ∀ (program : Program) (request : Request) (entity : Entity) (s t : State),
      request.bindings.Ordered → program.setUp (request.fromEntity entity) s = .ok () t →
      ∀ (fuel : Nat) (c : Command), evaluate program (settle program fuel)
          ((request.firstFrame s).context c) (.variable attachedEntityName) t =
        .ok (.object (.entity entity)) t := by
  intro h
  have horder : smallRequest.bindings.Ordered := List.pairwise_singleton _ _
  have haccepted : stillProgram.setUp (smallRequest.fromEntity door) {} = .ok () _ := rfl
  cases h stillProgram smallRequest door {} _ horder haccepted 1 default

end StageScript
