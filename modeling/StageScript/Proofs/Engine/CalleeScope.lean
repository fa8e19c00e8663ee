import StageScript.Proofs.Engine.Agreement
import StageScript.Proofs.Engine.Isolation

/-!
# The scope of a callee

A call builds the scope of its callee binding after binding, in the order written. A bare variable
makes its name stand for the cell of that variable; any other param is evaluated and its value is
set, in the cell that the name has by then or in a new one. So the bindings before a value decide
what becomes of it (`sourceIn?`). If a bare variable stands before it under the same name, the value
is written into the cell of the caller (`Context.WritesOver`).

Where no binding has a command in it, evaluation leaves memory and stores as they are
(`evaluate_still`), so nothing else is written: each cell that was there before keeps its value, and
every name of the new scope stands for the cell of its bare variable or for a new cell with the
value that was last evaluated for it (`call_hands`).
-/

namespace StageScript

/-! ### Evaluation without commands -/

theorem Run.after_bind_pure {α β : Type} (m : Run α) (b : β) (s : State) :
    (m >>= fun _ => pure b).after s = m.after s := by
  cases h : m s with
  | ok a t => rw [Run.after_bind_of_ok h, Run.after_of_ok h]; rfl
  | error e t => rw [Run.after_of_error (Run.bind_of_error h), Run.after_of_error h]

/-- One run after another, neither of which changes the state. -/
theorem Run.after_bind_of {α β : Type} {m : Run α} {f : α → Run β}
    (hm : ∀ s, m.after s = s) (hf : ∀ a s, (f a).after s = s) (s : State) :
    (m >>= f).after s = s := by
  have hms := hm s
  cases h : m s with
  | ok a t =>
    rw [Run.after_of_ok h] at hms
    rw [Run.after_bind_of_ok h, hf, hms]
  | error e t =>
    rw [Run.after_of_error h] at hms
    rw [Run.after_of_error (Run.bind_of_error h), hms]

/-- A run leaves the memory and the stores as they are. The relation is about the first run
alone. -/
def Still (α : Type) (m _m' : Run α) : Prop :=
  ∀ s, (m.after s).memory = s.memory ∧ (m.after s).world = s.world ∧ (m.after s).own = s.own

namespace Still

variable {α β : Type} {m m' : Run α}

theorem of_after_eq (h : ∀ s, m.after s = s) : Still α m m' := by
  intro s
  rw [h]
  exact ⟨rfl, rfl, rfl⟩

theorem bind {f f' : α → Run β} (hm : Still α m m')
    (hf : ∀ a, m.Returns a → Still β (f a) (f' a)) : Still β (m >>= f) (m' >>= f') := by
  intro s
  obtain ⟨hmemory, hworld, hown⟩ := hm s
  cases h : m s with
  | ok a t =>
    rw [Run.after_of_ok h] at hmemory hworld hown
    obtain ⟨hmemory', hworld', hown'⟩ := hf a ⟨s, t, h⟩ t
    rw [Run.after_bind_of_ok h]
    exact ⟨hmemory'.trans hmemory, hworld'.trans hworld, hown'.trans hown⟩
  | error e t =>
    rw [Run.after_of_error h] at hmemory hworld hown
    rw [Run.after_of_error (Run.bind_of_error h)]
    exact ⟨hmemory, hworld, hown⟩

theorem choice (ctx : Context) (place : Occurrence) (left : Value) :
    Still Choice (ctx.choice place left) (ctx.choice place left) := by
  intro s
  cases hknown : s.choice? place with
  | some choice =>
    rw [Run.after_of_ok (choice_of_some ctx hknown)]
    exact ⟨rfl, rfl, rfl⟩
  | none =>
    cases hc : Operator.choose place.operator left with
    | ok choice =>
      rw [Run.after_of_ok (choice_of_none ctx hknown hc)]
      exact ⟨rfl, rfl, rfl⟩
    | error cause =>
      rw [Run.after_of_error (choice_of_error ctx hknown hc)]
      exact ⟨rfl, rfl, rfl⟩

/-- Choosing the meaning of an operator is no change of memory or stores. -/
theorem quiet : Quiet Still where
  pure _ := of_after_eq fun _ => rfl
  fail _ _ := of_after_eq fun _ => rfl
  bind := bind
  memory := of_after_eq fun _ => rfl
  lookUp _ _ := of_after_eq fun _ => rfl
  operate ctx place left _ _ hr :=
    bind (choice ctx place left) fun _ _ => bind hr fun _ _ =>
      of_after_eq fun _ => Run.after_ofExcept _ _

end Still

/-- **Evaluating a param without commands changes no variable.** -/
theorem evaluate_still (program : Program) (settle : Settle) (ctx : Context) {p : Param}
    (hp : p.commands = []) :
    Still Value (evaluate program settle ctx p) (evaluate program settle ctx p) :=
  Still.quiet.evaluate p fun c hc => by
    rw [hp] at hc
    cases hc

/-- Finding a label changes nothing at all. -/
theorem Context.after_labelTarget (ctx : Context) (program : Program) (index : Nat) (s : State) :
    (ctx.labelTarget program index).after s = s := by
  have hname : ∀ s, (ctx.name index).after s = s := by
    intro s
    unfold Context.name
    split <;> rfl
  have hbehind : ∀ name s, (ctx.labelBehind? program name).after s = s := by
    intro name s
    refine Run.after_bind_of (fun _ => rfl) (fun cell s => ?_) s
    split
    · rfl
    · refine Run.after_bind_of (fun _ => rfl) (fun v s => ?_) s
      split <;> rfl
  refine Run.after_bind_of hname (fun label s => ?_) s
  split
  · rfl
  · refine Run.after_bind_of (hbehind label) (fun line s => ?_) s
    split <;> rfl

/-! ### What bindings bind -/

/-- The variable whose cell a name stands for after some bindings: that of the last one that binds
the name to a bare variable. -/
def sourceIn? (name : String) : List (String × Param) → Option String
  | [] => none
  | b :: bs => sourceIn? name bs <|> if b.1 = name then b.2.variableName? else none

theorem sourceIn?_concat (name : String) (b : String × Param) (bs : List (String × Param)) :
    sourceIn? name (bs ++ [b]) =
      ((if b.1 = name then b.2.variableName? else none) <|> sourceIn? name bs) := by
  induction bs with
  | nil => simp [sourceIn?]
  | cons a bs ih =>
    simp only [List.cons_append, sourceIn?, ih]
    cases (if b.1 = name then b.2.variableName? else none) <;> rfl

theorem exists_mem_of_sourceIn? {name source : String} : ∀ {bs : List (String × Param)},
    sourceIn? name bs = some source → ∃ b ∈ bs, b.1 = name
  | [], h => by cases h
  | b :: bs, h => by
    unfold sourceIn? at h
    cases hbs : sourceIn? name bs with
    | some source' =>
      obtain ⟨a, ha, hname⟩ := exists_mem_of_sourceIn? hbs
      exact ⟨a, List.mem_cons_of_mem _ ha, hname⟩
    | none =>
      by_cases hb : b.1 = name
      · exact ⟨b, List.mem_cons_self, hb⟩
      · rw [hbs, if_neg hb] at h
        cases h

namespace Context

variable (program : Program) (settle : Settle) (ctx : Context)

/-- **The cells of a caller that its bindings write over**: a value is bound to a name that stands
for the cell of a bare variable by then. -/
def WritesOver (s : State) (bs : List (String × Param)) (cell : CellId) : Prop :=
  ∃ before name p after source, bs = before ++ (name, p) :: after ∧ p.variableName? = none ∧
    sourceIn? name before = some source ∧ s.lookUp? ctx.scope ctx.actor.id source = some cell

/-- The value that was last evaluated for a name, in the state behind the bindings before it. -/
def Evaluated (scope : ScopeId) (s : State) (bs : List (String × Param)) (name : String)
    (v : Value) : Prop :=
  ∃ before p after r r', bs = before ++ (name, p) :: after ∧ (∀ b ∈ after, b.1 ≠ name) ∧
    ctx.bindArguments program settle scope before s = .ok () r ∧
    evaluate program settle ctx p r = .ok v r'

/-- **What a name of the scope of a callee stands for**, after some bindings were made in the scope
from a state `s` on and have left a memory `m`. -/
inductive Hands (scope : ScopeId) (s : State) (bs : List (String × Param)) (m : Memory)
    (name : String) : Prop
  /-- The cell that the last bare variable for it has for the caller. -/
  | shared {source : String} {cell : CellId} (hsource : sourceIn? name bs = some source)
    (hlook : s.lookUp? ctx.scope ctx.actor.id source = some cell)
    (hcell : m.cellIn? scope name = some cell)
  /-- A new cell that no other name of the scope stands for, with the value last evaluated. -/
  | made {cell : CellId} (hsource : sourceIn? name bs = none)
    (hnew : s.memory.cells.size ≤ cell) (hlt : cell < m.cells.size)
    (hcell : m.cellIn? scope name = some cell)
    (hone : ∀ other, m.cellIn? scope other = some cell → other = name)
    (hvalue : ctx.Evaluated program settle scope s bs name (m.read cell))
  /-- Nothing, for no binding has the name. -/
  | unbound (hname : ∀ b ∈ bs, b.1 ≠ name) (hcell : m.cellIn? scope name = none)

variable {program settle ctx} {scope : ScopeId} {s : State} {bs : List (String × Param)}
  {b : String × Param} {name : String}

/-- Bindings of different names write over nothing. -/
theorem not_writesOver_of_nodup (hbs : (bs.map (·.1)).Nodup) (cell : CellId) :
    ¬ ctx.WritesOver s bs cell := by
  rintro ⟨before, name, p, after, source, rfl, -, hsource, -⟩
  obtain ⟨b, hb, hname⟩ := exists_mem_of_sourceIn? hsource
  rw [List.map_append, List.nodup_append] at hbs
  exact hbs.2.2 b.1 (List.mem_map_of_mem hb) name (by simp) hname

theorem WritesOver.append {cell : CellId} (h : ctx.WritesOver s bs cell)
    (rest : List (String × Param)) : ctx.WritesOver s (bs ++ rest) cell := by
  obtain ⟨before, name, p, after, source, rfl, hp⟩ := h
  exact ⟨before, name, p, after ++ rest, source, by simp, hp⟩

theorem WritesOver.of_lookUp {t : State} {cell : CellId} (h : ctx.WritesOver s bs cell)
    (hlook : ∀ name, s.lookUp? ctx.scope ctx.actor.id name =
      t.lookUp? ctx.scope ctx.actor.id name) : ctx.WritesOver t bs cell := by
  obtain ⟨before, name, p, after, source, hbs, hp, hsource, hcell⟩ := h
  exact ⟨before, name, p, after, source, hbs, hp, hsource, (hlook source).symm.trans hcell⟩

theorem Evaluated.concat {v : Value} (h : ctx.Evaluated program settle scope s bs name v)
    (hb : b.1 ≠ name) : ctx.Evaluated program settle scope s (bs ++ [b]) name v := by
  obtain ⟨before, p, after, r, r', rfl, hafter, hrun⟩ := h
  refine ⟨before, p, after ++ [b], r, r', by simp, fun a ha => ?_, hrun⟩
  rcases List.mem_append.mp ha with ha | ha
  · exact hafter a ha
  · cases List.mem_singleton.mp ha
    exact hb

/-- A binding of another name leaves what a name stands for as it is. -/
theorem Hands.concat {m m' : Memory} (h : ctx.Hands program settle scope s bs m name)
    (hb : b.1 ≠ name) (hcell : m'.cellIn? scope name = m.cellIn? scope name)
    (hsize : m.cells.size ≤ m'.cells.size)
    (hmade : ∀ cell, s.memory.cells.size ≤ cell → m.cellIn? scope name = some cell →
      m'.read cell = m.read cell ∧
        ∀ other, m'.cellIn? scope other = some cell → m.cellIn? scope other = some cell) :
    ctx.Hands program settle scope s (bs ++ [b]) m' name := by
  have hsource : sourceIn? name (bs ++ [b]) = sourceIn? name bs := by
    rw [sourceIn?_concat, if_neg hb]
    rfl
  cases h with
  | shared hold hlook hc => exact .shared (hsource.trans hold) hlook (hcell.trans hc)
  | made hold hnew hlt hc hone hvalue =>
    obtain ⟨hread, hothers⟩ := hmade _ hnew hc
    refine .made (hsource.trans hold) hnew (Nat.lt_of_lt_of_le hlt hsize) (hcell.trans hc)
      (fun other ho => hone other (hothers other ho)) ?_
    rw [hread]
    exact hvalue.concat hb
  | unbound hname hc =>
    refine .unbound (fun a ha => ?_) (hcell.trans hc)
    rcases List.mem_append.mp ha with ha | ha
    · exact hname a ha
    · cases List.mem_singleton.mp ha
      exact hb

end Context

/-- **What the bindings of a call have done so far**, since the state `s` in which they began. -/
structure Bound (program : Program) (settle : Settle) (ctx : Context) (scope : ScopeId) (s : State)
    (bs : List (String × Param)) (t : State) : Prop where
  world : t.world = s.world
  own : t.own = s.own
  names : t.memory.names ctx.scope = s.memory.names ctx.scope
  scope_lt : scope < t.memory.scopes.size
  size_le : s.memory.cells.size ≤ t.memory.cells.size
  old : ∀ cell < s.memory.cells.size,
    t.memory.read cell = s.memory.read cell ∨ ctx.WritesOver s bs cell
  hands : ∀ name, ctx.Hands program settle scope s bs t.memory name

theorem Memory.cellIn?_bind (m : Memory) {scope : ScopeId} (name : String) (cell : CellId)
    (h : scope < m.scopes.size) (other : String) :
    (m.bind scope name cell).cellIn? scope other =
      if other = name then some cell else m.cellIn? scope other := by
  unfold Memory.cellIn? Memory.bind
  rw [Memory.names_replace, if_pos ⟨rfl, h⟩, Table.get?_insert]

/-- The caller, in front of whom a scope is filled: its names stand for cells that exist, and the
scope is not its own. -/
structure Context.Before (ctx : Context) (scope : ScopeId) (s : State) : Prop where
  lookUp_lt : ∀ name cell,
    s.lookUp? ctx.scope ctx.actor.id name = some cell → cell < s.memory.cells.size
  ne : ctx.scope ≠ scope

namespace Bound

variable {program : Program} {settle : Settle} {ctx : Context} {scope : ScopeId} {s t : State}
  {bs : List (String × Param)} {b : String × Param}

theorem lookUp (h : Bound program settle ctx scope s bs t) (name : String) :
    t.lookUp? ctx.scope ctx.actor.id name = s.lookUp? ctx.scope ctx.actor.id name := by
  unfold State.lookUp? State.lookUpStored? State.stored? Memory.cellIn?
  rw [h.names, h.world, h.own]

theorem cell_lt (h : Bound program settle ctx scope s bs t) (hs : ctx.Before scope s)
    {name : String} {cell : CellId} (hcell : t.memory.cellIn? scope name = some cell) :
    cell < t.memory.cells.size := by
  cases h.hands name with
  | shared _ hlook hc =>
    cases hc.symm.trans hcell
    exact Nat.lt_of_lt_of_le (hs.lookUp_lt _ cell hlook) h.size_le
  | made _ _ hlt hc =>
    cases hc.symm.trans hcell
    exact hlt
  | unbound _ hc => cases hc.symm.trans hcell

/-- A run that changes no variable. -/
theorem still {α : Type} {m : Run α} (h : Bound program settle ctx scope s bs t)
    (hm : Still α m m) : Bound program settle ctx scope s bs (m.after t) := by
  obtain ⟨hmemory, hworld, hown⟩ := hm t
  obtain ⟨world, own, names, scope_lt, size_le, old, hands⟩ := h
  constructor
  · exact hworld.trans world
  · exact hown.trans own
  all_goals rwa [hmemory]

/-- A name is bound to the cell of a bare variable. -/
theorem share (h : Bound program settle ctx scope s bs t) (hs : ctx.Before scope s)
    {source : String} {cell : CellId} (hb : b.2.variableName? = some source)
    (hlook : s.lookUp? ctx.scope ctx.actor.id source = some cell) :
    Bound program settle ctx scope s (bs ++ [b])
      { t with memory := t.memory.bind scope b.1 cell } := by
  have hcellIn := t.memory.cellIn?_bind b.1 cell h.scope_lt
  refine
    { world := h.world
      own := h.own
      names := (t.memory.names_bind_of_ne cell scope b.1 hs.ne).trans h.names
      scope_lt := Nat.lt_of_lt_of_eq h.scope_lt Array.size_setIfInBounds.symm
      size_le := h.size_le
      old := fun c hc => (h.old c hc).imp_right (·.append [b])
      hands := fun name => ?_ }
  by_cases hname : b.1 = name
  · have hsource : sourceIn? name (bs ++ [b]) = some source := by
      rw [sourceIn?_concat, if_pos hname, hb]
      rfl
    refine .shared hsource hlook ?_
    rw [hcellIn, if_pos hname.symm]
  · refine (h.hands name).concat hname ?_ (Nat.le_refl _)
      fun c hnew _ => ⟨rfl, fun other ho => ?_⟩
    · rw [hcellIn, if_neg (Ne.symm hname)]
    · -- the cell that is shared is older than the one that was made
      rw [hcellIn] at ho
      split at ho
      · cases ho
        exact absurd (hs.lookUp_lt source cell hlook) (Nat.not_lt.mpr hnew)
      · exact ho

/-- A value is set in the cell that its name has already. -/
theorem write (h : Bound program settle ctx scope s bs t) {cell : CellId} {v : Value}
    (hcell : t.memory.cellIn? scope b.1 = some cell)
    (hothers : ∀ name c, s.memory.cells.size ≤ c → t.memory.cellIn? scope name = some c →
      b.1 ≠ name → c ≠ cell)
    (hold : cell < s.memory.cells.size → ctx.WritesOver s (bs ++ [b]) cell)
    (hself : ctx.Hands program settle scope s (bs ++ [b]) (t.memory.write cell v) b.1) :
    Bound program settle ctx scope s (bs ++ [b])
      { t with memory := t.memory.set scope b.1 v } := by
  have hset : t.memory.set scope b.1 v = t.memory.write cell v := by
    unfold Memory.set
    rw [hcell]
  rw [hset]
  refine
    { world := h.world
      own := h.own
      names := h.names
      scope_lt := h.scope_lt
      size_le := Nat.le_trans h.size_le (Nat.le_of_eq (t.memory.size_write cell v).symm)
      old := fun c hc => ?_
      hands := fun name => ?_ }
  · by_cases he : c = cell
    · exact .inr (he ▸ hold (he ▸ hc))
    · rw [t.memory.read_write_of_ne cell v he]
      exact (h.old c hc).imp_right (·.append [b])
  · by_cases hname : b.1 = name
    · exact hname ▸ hself
    · refine (h.hands name).concat hname rfl (Nat.le_of_eq (t.memory.size_write cell v).symm)
        fun c hnew hc => ⟨?_, fun _ ho => ho⟩
      exact t.memory.read_write_of_ne cell v (hothers name c hnew hc hname)

/-- A value is set in a cell that is made for it. -/
theorem make (h : Bound program settle ctx scope s bs t) (hs : ctx.Before scope s) {v : Value}
    (hb : b.2.variableName? = none) (hname : ∀ a ∈ bs, a.1 ≠ b.1)
    (hcell : t.memory.cellIn? scope b.1 = none)
    (hvalue : ctx.Evaluated program settle scope s (bs ++ [b]) b.1 v) :
    Bound program settle ctx scope s (bs ++ [b])
      { t with memory := t.memory.set scope b.1 v } := by
  have hset : t.memory.set scope b.1 v =
      (t.memory.newCell v).2.bind scope b.1 t.memory.cells.size := by
    unfold Memory.set
    rw [hcell]
    rfl
  have hcellIn := (t.memory.newCell v).2.cellIn?_bind b.1 t.memory.cells.size h.scope_lt
  have hle : t.memory.cells.size ≤ (t.memory.newCell v).2.cells.size := by
    rw [t.memory.size_newCell v]
    exact Nat.le_succ _
  rw [hset]
  refine
    { world := h.world
      own := h.own
      names := ((t.memory.newCell v).2.names_bind_of_ne _ scope b.1 hs.ne).trans h.names
      scope_lt := Nat.lt_of_lt_of_eq h.scope_lt Array.size_setIfInBounds.symm
      size_le := Nat.le_trans h.size_le hle
      old := fun c hc => ?_
      hands := fun name => ?_ }
  · have hread := t.memory.read_newCell_of_lt v (Nat.lt_of_lt_of_le hc h.size_le)
    exact (h.old c hc).imp hread.trans (·.append [b])
  · have hnew : ∀ other c, c < t.memory.cells.size →
        ((t.memory.newCell v).2.bind scope b.1 t.memory.cells.size).cellIn? scope other = some c →
          t.memory.cellIn? scope other = some c := by
      intro other c hc ho
      rw [hcellIn] at ho
      split at ho
      · cases ho
        exact absurd hc (Nat.lt_irrefl _)
      · exact ho
    by_cases he : b.1 = name
    · subst he
      have hsource : sourceIn? b.1 (bs ++ [b]) = none := by
        rw [sourceIn?_concat, if_pos rfl, hb]
        cases hbs : sourceIn? b.1 bs with
        | none => rfl
        | some source =>
          obtain ⟨a, ha, hab⟩ := exists_mem_of_sourceIn? hbs
          exact absurd hab (hname a ha)
      refine .made hsource h.size_le ?_ ?_ (fun other ho => ?_) ?_
      · exact Nat.lt_of_lt_of_eq (Nat.lt_succ_self _) (t.memory.size_newCell v).symm
      · rw [hcellIn, if_pos rfl]
      · rw [hcellIn] at ho
        split at ho
        · next hother => exact hother
        · exact absurd (h.cell_lt hs ho) (Nat.lt_irrefl _)
      · have hread := t.memory.read_newCell v
        exact hread.symm ▸ hvalue
    · refine (h.hands name).concat he ?_ hle fun c _ hc => ⟨?_, fun other ho => ?_⟩
      · rw [hcellIn, if_neg (Ne.symm he)]
        rfl
      · exact t.memory.read_newCell_of_lt v (h.cell_lt hs hc)
      · exact hnew other c (h.cell_lt hs hc) ho

/-- A value is set. -/
theorem set (h : Bound program settle ctx scope s bs t) (hs : ctx.Before scope s) {v : Value}
    (hb : b.2.variableName? = none)
    (hvalue : ctx.Evaluated program settle scope s (bs ++ [b]) b.1 v) :
    Bound program settle ctx scope s (bs ++ [b])
      { t with memory := t.memory.set scope b.1 v } := by
  have hsource : sourceIn? b.1 (bs ++ [b]) = sourceIn? b.1 bs := by
    rw [sourceIn?_concat, if_pos rfl, hb]
    rfl
  cases h.hands b.1 with
  | shared hold hlook hcell =>
    have hlt := hs.lookUp_lt _ _ hlook
    refine h.write hcell (fun name c hc _ _ he => ?_) (fun _ => ?_) ?_
    · exact absurd (he ▸ hlt) (Nat.not_lt.mpr hc)
    · exact ⟨bs, b.1, b.2, [], _, rfl, hb, hold, hlook⟩
    · exact .shared (hsource.trans hold) hlook hcell
  | made hold hnew hlt hcell hone _ =>
    refine h.write hcell (fun name c _ hc hne he => ?_) (fun hlt => ?_) ?_
    · exact hne (hone name (he ▸ hc)).symm
    · exact absurd hlt (Nat.not_lt.mpr hnew)
    · refine .made (hsource.trans hold) hnew ?_ hcell hone ?_
      · exact Nat.lt_of_lt_of_eq hlt (t.memory.size_write _ v).symm
      · rw [t.memory.read_write _ v hlt]
        exact hvalue
  | unbound hname hcell => exact h.make hs hb hname hcell hvalue

/-! ### One binding after the other -/

theorem bindArguments_concat :
    ctx.bindArguments program settle scope (bs ++ [b]) =
      ctx.bindArguments program settle scope bs >>= fun _ =>
        ctx.bindArgument program settle scope b := by
  induction bs with
  | nil =>
    simp only [List.nil_append, Context.bindArguments, pure_bind]
    exact bind_pure _
  | cons a bs ih => simp only [List.cons_append, Context.bindArguments, ih, bind_assoc]

/-- **One binding** keeps what the bindings before have done; one that stops changes no variable. -/
theorem bindArgument (h : Bound program settle ctx scope s bs t) (hs : ctx.Before scope s)
    (hbs : ctx.bindArguments program settle scope bs s = .ok () t) (hb : b.2.commands = []) :
    (∀ r, ctx.bindArgument program settle scope b t = .ok () r →
      Bound program settle ctx scope s (bs ++ [b]) r) ∧
    ∀ e r, ctx.bindArgument program settle scope b t = .error e r →
      Bound program settle ctx scope s bs r := by
  unfold Context.bindArgument
  cases hsource : b.2.variableName? with
  | some source =>
    have hstill : Still CellId (ctx.resolve source) (ctx.resolve source) :=
      Still.quiet.resolve source
    refine ⟨fun r hr => ?_, fun e r hr => ?_⟩
    · obtain ⟨cell, u, hcell, hr⟩ := Run.bind_eq_ok hr
      cases hr
      obtain ⟨rfl, hlook⟩ := Obeys.resolve_eq_ok hcell
      exact h.share hs hsource ((h.lookUp source).symm.trans hlook)
    · rcases Run.bind_eq_error hr with hr | ⟨cell, u, -, hr⟩
      · exact Run.after_of_error hr ▸ h.still hstill
      · cases hr
  | none =>
    have hstill := evaluate_still program settle ctx hb
    refine ⟨fun r hr => ?_, fun e r hr => ?_⟩
    · obtain ⟨v, u, hv, hr⟩ := Run.bind_eq_ok hr
      cases hr
      have hu := Run.after_of_ok hv ▸ h.still hstill
      exact hu.set hs hsource ⟨bs, b.2, [], t, u, rfl, by simp, hbs, hv⟩
    · rcases Run.bind_eq_error hr with hr | ⟨v, u, -, hr⟩
      · exact Run.after_of_error hr ▸ h.still hstill
      · cases hr

/-- **All bindings**, those that are to be made after the ones that were made already. -/
theorem bindArguments (hs : ctx.Before scope s) : ∀ rest bs t,
    Bound program settle ctx scope s bs t →
    ctx.bindArguments program settle scope bs s = .ok () t →
    (∀ b ∈ rest, b.2.commands = []) →
    (∀ r, ctx.bindArguments program settle scope rest t = .ok () r →
      Bound program settle ctx scope s (bs ++ rest) r) ∧
    ∀ cell < s.memory.cells.size,
      ((ctx.bindArguments program settle scope rest).after t).memory.read cell =
        s.memory.read cell ∨ ctx.WritesOver s (bs ++ rest) cell
  | [], bs, t, h, hbs, _ => by
    rw [List.append_nil]
    refine ⟨fun r hr => ?_, h.old⟩
    cases hr
    exact h
  | b :: rest, bs, t, h, hbs, hrest => by
    obtain ⟨hok, herror⟩ := h.bindArgument hs hbs (hrest b List.mem_cons_self)
    have happend : bs ++ b :: rest = bs ++ [b] ++ rest := by simp
    cases hr : ctx.bindArgument program settle scope b t with
    | ok u r =>
      have hnext := bindArguments hs rest (bs ++ [b]) r (hok r hr)
        (by rw [bindArguments_concat, Run.bind_of_ok hbs]; exact hr)
        fun a ha => hrest a (List.mem_cons_of_mem _ ha)
      have hrun : ctx.bindArguments program settle scope (b :: rest) t =
          ctx.bindArguments program settle scope rest r := Run.bind_of_ok hr
      unfold Run.after at hnext ⊢
      rw [happend, hrun]
      exact hnext
    | error e r =>
      have hrun : ctx.bindArguments program settle scope (b :: rest) t = .error e r :=
        Run.bind_of_error hr
      refine ⟨fun r' hr' => ?_, fun cell hcell => ?_⟩
      · cases hrun.symm.trans hr'
      · rw [Run.after_of_error hrun]
        exact ((herror e r hr).old cell hcell).imp_right (·.append _)

end Bound

/-! ### The call -/

/-- A scope that is made hides nothing and shows nothing. -/
theorem State.lookUp?_newScope (s : State) (scope : ScopeId) (id name : String) :
    State.lookUp? { s with memory := s.memory.newScope.2 } scope id name =
      s.lookUp? scope id name := by
  unfold State.lookUp?
  dsimp only
  rw [s.memory.cellIn?_newScope]
  rfl

section Call

variable {program : Program} {settle : Settle} {ctx : Context} {s : State}

theorem Context.Grounded.lookUp_lt (h : ctx.Grounded s) {name : String} {cell : CellId}
    (hcell : s.lookUp? ctx.scope ctx.actor.id name = some cell) : cell < s.memory.cells.size :=
  (h.sound.lookUp Veil.not_scopes_around (Veil.shows_around _) hcell).1

/-- No binding has been made in a new scope. -/
theorem Bound.newScope (program : Program) (settle : Settle) (ctx : Context) (s : State) :
    Bound program settle ctx s.memory.scopes.size { s with memory := s.memory.newScope.2 } []
      { s with memory := s.memory.newScope.2 } where
  world := rfl
  own := rfl
  names := rfl
  scope_lt := Nat.lt_of_lt_of_eq (Nat.lt_succ_self _) (Array.size_push _).symm
  size_le := Nat.le_refl _
  old _ _ := .inl rfl
  hands name := by
    refine .unbound (fun _ hb => by cases hb) ?_
    rw [s.memory.cellIn?_newScope]
    exact s.memory.cellIn?_of_size_le _ name (Nat.le_refl _)

theorem Context.call_eq (program : Program) (settle : Settle) (ctx : Context) :
    ctx.call program settle =
      ctx.labelTarget program 0 >>= fun line => Run.newScope >>= fun scope =>
        ctx.bindArguments program settle scope ctx.command.arguments >>= fun _ =>
          pure (.jump ⟨.call, line, scope⟩) := by
  unfold Context.call Command.arguments
  rw [show ctx.command.param 1 = ctx.param 1 from rfl]
  cases ctx.param 1 <;> rfl

/-- A call that finds its line binds its arguments in a new scope; one that does not stops. -/
theorem Context.after_call (ctx : Context) (program : Program) (settle : Settle) (s : State) :
    (ctx.call program settle).after s = s ∨
    (ctx.call program settle).after s =
      (ctx.bindArguments program settle s.memory.scopes.size ctx.command.arguments).after
        { s with memory := s.memory.newScope.2 } := by
  have htarget := ctx.after_labelTarget program 0 s
  rw [call_eq]
  cases hline : ctx.labelTarget program 0 s with
  | error e r =>
    rw [Run.after_of_error hline] at htarget
    exact .inl ((Run.after_of_error (Run.bind_of_error hline)).trans htarget)
  | ok line r =>
    rw [Run.after_of_ok hline] at htarget
    subst htarget
    have hscope : Run.newScope r =
        .ok r.memory.scopes.size { r with memory := r.memory.newScope.2 } := rfl
    right
    rw [Run.after_bind_of_ok hline, Run.after_bind_of_ok hscope, Run.after_bind_pure]

/-- **What a call does to its caller and to its callee.** If no binding has a command in it, a cell
that was there before the call keeps its value, whether the bindings stop or not, unless a value is
bound to a name that stands for that cell by an earlier bare variable. A call that does not stop
hands over a new scope in which each name stands for what its bindings say. -/
theorem call_hands (program : Program) (settle : Settle) (hctx : ctx.Grounded s)
    (hplain : ∀ b ∈ ctx.command.arguments, b.2.commands = []) :
    (∀ cell < s.memory.cells.size,
      ((ctx.call program settle).after s).memory.read cell = s.memory.read cell ∨
        ctx.WritesOver s ctx.command.arguments cell) ∧
    ∀ outcome t, ctx.call program settle s = .ok outcome t →
      (∃ line, outcome = .jump ⟨.call, line, s.memory.scopes.size⟩) ∧
      ∀ name, ctx.Hands program settle s.memory.scopes.size
        { s with memory := s.memory.newScope.2 } ctx.command.arguments t.memory name := by
  have hbefore : ctx.Before s.memory.scopes.size { s with memory := s.memory.newScope.2 } :=
    ⟨fun name cell hcell => hctx.lookUp_lt ((s.lookUp?_newScope _ _ name).symm.trans hcell),
      Nat.ne_of_lt hctx.scope_lt⟩
  obtain ⟨hbound, hold⟩ := Bound.bindArguments hbefore ctx.command.arguments [] _
    (.newScope program settle ctx s) rfl hplain
  refine ⟨fun cell hcell => ?_, fun outcome t h => ?_⟩
  · rcases ctx.after_call program settle s with he | he
    · exact .inl (congrArg (·.memory.read cell) he)
    · rw [he]
      exact (hold cell hcell).imp_right (·.of_lookUp fun name => s.lookUp?_newScope _ _ name)
  · obtain ⟨line, r, hline, hbind, rfl⟩ := call_eq_ok h
    have hr : r = s := (Run.after_of_ok hline).symm.trans (ctx.after_labelTarget program 0 s)
    subst hr
    exact ⟨⟨line, rfl⟩, (hbound t hbind).hands⟩

end Call

/-! ### Examples -/

/-- What `DO: OTHER WITH [V, W = "new"]` compiles to. -/
def sharingCall : Command where
  name := "DO"
  params := [.ofText "OTHER",
    .bindings [("V", .variable "V"), ("W", .value (.text "new"))], .ofLine 0]
  line := 0

/-- What `DO: OTHER WITH [V, V = "new"]` compiles to. -/
def overwritingCall : Command where
  name := "DO"
  params := [.ofText "OTHER",
    .bindings [("V", .variable "V"), ("V", .value (.text "new"))], .ofLine 0]
  line := 0

/-- A call in the place of the one from `handingContext` starts on solid ground as well. -/
theorem handingContext_child_grounded (c : Command) :
    (handingContext.child c).Grounded handingState :=
  ⟨handingContext_grounded.scope_lt, handingContext_grounded.name_lt,
    handingContext_grounded.slot_lt⟩

/-- The state in which the frame of the sharing call is entered. -/
def sharingEntered : State :=
  ((handingContext.child sharingCall).call handingProgram (settle handingProgram 1)).after
    handingState

theorem call_hands_sharing :
    (plainLine "DO: OTHER WITH [V, W = \"new\"]").parse = .ok sharingCall ∧
      handingState.memory.read 1 = .text "old" ∧ sharingEntered.memory.read 1 = .text "old" ∧
      (handingContext.child sharingCall).Hands handingProgram (settle handingProgram 1) 1
        { handingState with memory := handingState.memory.newScope.2 } sharingCall.arguments
        sharingEntered.memory "W" := by
  have hplain : ∀ b ∈ sharingCall.arguments, b.2.commands = [] := by
    simp [Command.arguments, Command.param, sharingCall, Param.commands]
  obtain ⟨hold, hhands⟩ := call_hands handingProgram (settle handingProgram 1)
    (handingContext_child_grounded sharingCall) hplain
  refine ⟨by with_unfolding_all rfl, rfl, ?_, (hhands _ sharingEntered rfl).2 "W"⟩
  rcases hold 1 (by decide) with hread | hover
  · exact hread.trans rfl
  · exact absurd hover (Context.not_writesOver_of_nodup (by decide) 1)

/-- **A callee scope that writes to its caller**: the second binding of `V` goes through the cell
that the first one shares. -/
theorem call_writes_over :
    (plainLine "DO: OTHER WITH [V, V = \"new\"]").parse = .ok overwritingCall ∧
      (∀ b ∈ overwritingCall.arguments, b.2.commands = []) ∧
      handingState.memory.read 1 = .text "old" ∧
      ∃ j t, (handingContext.child overwritingCall).call handingProgram
          (settle handingProgram 1) handingState = .ok (.jump j) t ∧
        t.memory.read 1 = .text "new" := by
  refine ⟨by with_unfolding_all rfl, ?_, rfl, _, _, rfl, rfl⟩
  simp [Command.arguments, Command.param, overwritingCall, Param.commands]

end StageScript
