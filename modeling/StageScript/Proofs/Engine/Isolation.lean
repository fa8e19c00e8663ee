import StageScript.Proofs.Engine.Veil

/-!
# A call leaves the scope of the caller alone

`DO` runs its target in a scope of its own. Whatever the callee does, in loops, with `SET-HERE`, and
in calls and jumps to any depth, the scope of the caller keeps its names and the cells behind them.
A cell of it keeps its value too, unless the callee has another way to it: it is in a slot of the
stores, or the call itself has handed it over by a binding that is a bare variable.

The proof puts a veil over what the callee must not reach (`Veil.around`). That the veil is sound
when the frame is entered is a fact about the bindings: the cells of the new scope are the ones that
were handed over, and cells that were made for it and that no one else holds
(`Arguments.bindArguments`).

All this is about programs over the commands of the language, since a command of a host may reach
for any cell. It presupposes that names do not stand for cells that are yet to be made, and that
scopes in use are not yet to be made either (`Context.Grounded`). So it is in every run: in its
first frame (`Context.Grounded.start`), as commands are settled (`Context.Grounded.settle`), and in
the frames of calls (`grounded_callee`).
-/

namespace StageScript

open Relation (ReflTransGen)

/-! ### Contexts on solid ground -/

/-- The scope of a context exists, and so do the cells of all names that the context can see. -/
structure Context.Grounded (ctx : Context) (s : State) : Prop where
  scope_lt : ctx.scope < s.memory.scopes.size
  name_lt : ∀ name cell, s.memory.cellIn? ctx.scope name = some cell → cell < s.memory.cells.size
  slot_lt : ∀ k cell, s.slot? k = some cell → cell < s.memory.cells.size

/-- The veil over some cells and over the first `count` scopes but one. -/
def Veil.around (scope : ScopeId) (count : Nat) (cells : CellId → Prop) : Veil where
  cells := cells
  scopes other := other < count ∧ other ≠ scope
  slots _ := False

namespace Veil

variable {scope : ScopeId} {count : Nat} {cells : CellId → Prop} {s : State} {program : Program}

theorem shows_around (id : String) : (Veil.around scope count cells).Shows id :=
  fun _ _ _ _ hk => hk

theorem spares_around (c : Command) : (Veil.around scope count cells).Spares program c :=
  fun _ _ _ _ _ id => shows_around id

theorem spares_line_around (program : Program) (line : Nat) (c : Command)
    (_ : program.script.commandAt? line = some c) :
    (Veil.around scope count cells).Spares program c := spares_around c

theorem not_scopes_around : ¬ (Veil.around scope count cells).scopes scope := fun h => h.2 rfl

/-- The veil over all scopes but one is sound if neither that scope nor a slot holds a hidden
cell. -/
theorem sound_around (hcells : ∀ cell, cells cell → cell < s.memory.cells.size)
    (hslot : ∀ k cell, s.slot? k = some cell → (around scope count cells).Open s cell)
    (hname : ∀ name cell, s.memory.cellIn? scope name = some cell →
      (around scope count cells).Open s cell)
    (hcount : count = s.memory.scopes.size) : (around scope count cells).Sound s where
  cell_lt := hcells
  scope_lt other ho := hcount ▸ ho.1
  slot k cell _ := hslot k cell
  name other name cell ho hcell := by
    by_cases he : other = scope
    · exact hname name cell (he ▸ hcell)
    · -- any other scope in front of the veil is still to come
      have hle : s.memory.scopes.size ≤ other := hcount ▸ Nat.not_lt.mp fun hlt => ho ⟨hlt, he⟩
      rw [s.memory.cellIn?_of_size_le other name hle] at hcell
      cases hcell

end Veil

namespace Context.Grounded

variable {ctx : Context} {s : State} {program : Program}

theorem sound (h : ctx.Grounded s) :
    (Veil.around ctx.scope s.memory.scopes.size fun _ => False).Sound s :=
  Veil.sound_around (fun _ hc => hc.elim) (fun k cell hk => ⟨h.slot_lt k cell hk, id⟩)
    (fun name cell hn => ⟨h.name_lt name cell hn, id⟩) rfl

/-- A run that the context can make keeps it grounded. -/
theorem after {registry : Registry} {α : Type} {m : Run α} (h : ctx.Grounded s)
    (hm : Obeys (Veil.around ctx.scope s.memory.scopes.size fun _ => False) registry α m m) :
    ctx.Grounded (m.after s) := by
  have hsteps := hm s h.sound
  have hsound := Veil.Steps.sound hsteps h.sound
  exact
    { scope_lt := Nat.lt_of_lt_of_le h.scope_lt (Veil.Steps.keeps hsteps).scopes_le
      name_lt := fun name cell hn => (hsound.name _ name cell Veil.not_scopes_around hn).1
      slot_lt := fun k cell hk => (hsound.slot k cell id hk).1 }

/-- A run starts in a grounded context, if the slots hold cells that exist. -/
theorem start (hslot : ∀ k cell, s.slot? k = some cell → cell < s.memory.cells.size)
    (hscope : ctx.scope = s.memory.scopes.size) (bindings : List (String × Value)) :
    ctx.Grounded ((program.bindHostNames ctx.scope ctx.actor bindings).after
      { s with memory := s.memory.newScope.2 }) := by
  have hnew : ctx.Grounded { s with memory := s.memory.newScope.2 } :=
    { scope_lt := hscope ▸ Nat.lt_of_lt_of_eq (Nat.lt_succ_self _) (Array.size_push _).symm
      name_lt := fun name cell hcell => by
        rw [s.memory.cellIn?_newScope,
          s.memory.cellIn?_of_size_le _ name (Nat.le_of_eq hscope.symm)] at hcell
        cases hcell
      slot_lt := hslot }
  exact hnew.after (Obeys.bindHostNames Veil.not_scopes_around (Veil.shows_around _) bindings)

/-- Settling a command keeps its context grounded. -/
theorem settle (hlanguage : program.registry.OfLanguage) (h : ctx.Grounded s) (fuel : Nat)
    (c : Command) : ctx.Grounded ((settle program fuel ctx c).after s) :=
  h.after (Obeys.settle hlanguage (Veil.spares_line_around program) fuel ctx c
    ⟨Veil.not_scopes_around, Veil.shows_around _⟩ (Veil.spares_around c))

end Context.Grounded

/-! ### The arguments of a call -/

/-- The cells that a call has handed over: those that its scope holds under the names of bindings
that are bare variables. -/
def Command.HandsOver (c : Command) (scope : ScopeId) (s : State) (cell : CellId) : Prop :=
  ∃ b ∈ c.arguments, b.2.variableName?.isSome ∧ s.memory.cellIn? scope b.1 = some cell

/-- **What holds while arguments are bound in a new scope**: each cell of that scope has been made
for it, or stands behind the name of a bare variable, and nothing that the caller can see holds a
cell that was made for it. -/
structure Arguments (caller scope : ScopeId) (count : Nat) (bs : List (String × Param))
    (made : CellId → Prop) (s : State) : Prop where
  hidden : scope < count ∧ scope ≠ caller
  sound : (Veil.around caller count made).Sound s
  held : ∀ name cell, s.memory.cellIn? scope name = some cell → cell < s.memory.cells.size ∧
    (made cell ∨ ∃ b ∈ bs, b.2.variableName?.isSome ∧ b.1 = name)

namespace Arguments

variable {caller scope : ScopeId} {count : Nat} {bs : List (String × Param)}
  {made : CellId → Prop} {s t : State} (h : Arguments caller scope count bs made s)
include h

/-- The caller goes on with what it can see. -/
theorem steps {registry : Registry} (ht : (Veil.around caller count made).Steps registry s t) :
    Arguments caller scope count bs made t := by
  have hkeeps := Veil.Steps.keeps ht
  refine ⟨h.hidden, Veil.Steps.sound ht h.sound, fun name cell hcell => ?_⟩
  unfold Memory.cellIn? at hcell
  rw [hkeeps.names scope h.hidden] at hcell
  obtain ⟨hlt, hmade⟩ := h.held name cell hcell
  exact ⟨Nat.lt_of_lt_of_le hlt hkeeps.cells_le, hmade⟩

/-- A name is bound to a cell that was made for the scope, or to any cell if it is that of a bare
variable. -/
theorem bind {name : String} {cell : CellId} (hcell : cell < s.memory.cells.size)
    (hname : made cell ∨ ∃ b ∈ bs, b.2.variableName?.isSome ∧ b.1 = name) :
    Arguments caller scope count bs made { s with memory := s.memory.bind scope name cell } := by
  refine ⟨h.hidden, h.sound.of_le (Nat.le_refl _) (Nat.le_of_eq Array.size_setIfInBounds.symm)
    (fun _ _ _ => .inl) fun other name' c ho hc => ?_, fun name' c hc => ?_⟩
  · rcases s.memory.cellIn?_of_bind cell scope name hc with ⟨he, -, -⟩ | hold
    · exact absurd (he ▸ h.hidden) ho
    · exact .inl hold
  · rcases s.memory.cellIn?_of_bind cell scope name hc with ⟨-, rfl, rfl⟩ | hold
    · exact ⟨hcell, hname⟩
    · exact h.held name' c hold

theorem write (cell : CellId) (v : Value) :
    Arguments caller scope count bs made { s with memory := s.memory.write cell v } := by
  have hsize := s.memory.size_write cell v
  refine ⟨h.hidden, h.sound.of_le (Nat.le_of_eq hsize.symm) (Nat.le_refl _) (fun _ _ _ => .inl)
    fun _ _ _ _ => .inl, fun name c hc => ?_⟩
  rw [hsize]
  exact h.held name c hc

/-- A cell is made for the scope. Whatever holds a cell already holds one below it. -/
theorem newCell (v : Value) :
    Arguments caller scope count bs (fun cell => made cell ∨ cell = s.memory.cells.size)
      { s with memory := (s.memory.newCell v).2 } := by
  have hlt : ∀ cell, cell < s.memory.cells.size → cell < (s.memory.newCell v).2.cells.size := by
    intro cell hcell
    rw [s.memory.size_newCell]
    exact Nat.lt_succ_of_lt hcell
  have hopen : ∀ cell, (Veil.around caller count made).Open s cell →
      ¬ (made cell ∨ cell = s.memory.cells.size) := by
    rintro cell hcell (hmade | rfl)
    · exact hcell.2 hmade
    · exact Nat.lt_irrefl _ hcell.1
  refine ⟨h.hidden, ⟨?_, h.sound.scope_lt, fun k cell hk hcell => ?_,
    fun other name cell ho hcell => ?_⟩, fun name cell hcell => ?_⟩
  · rintro cell (hmade | rfl)
    · exact hlt cell (h.sound.cell_lt cell hmade)
    · exact Nat.lt_of_lt_of_eq (Nat.lt_succ_self _) (s.memory.size_newCell v).symm
  · have hold := h.sound.slot k cell hk hcell
    exact ⟨hlt cell hold.1, hopen cell hold⟩
  · have hold := h.sound.name other name cell ho hcell
    exact ⟨hlt cell hold.1, hopen cell hold⟩
  · obtain ⟨hcell, hheld⟩ := h.held name cell hcell
    exact ⟨hlt cell hcell, hheld.imp_left .inl⟩

/-- A value is set: in a cell that the scope has, or in one that is made for it. -/
theorem set (name : String) (v : Value) : ∃ made,
    Arguments caller scope count bs made { s with memory := s.memory.set scope name v } := by
  rcases s.memory.set_cases v scope name with ⟨cell, -, he⟩ | ⟨-, he⟩
  · rw [he]
    exact ⟨made, h.write cell v⟩
  · rw [he]
    have hlt : s.memory.cells.size < (s.memory.newCell v).2.cells.size :=
      Nat.lt_of_lt_of_eq (Nat.lt_succ_self _) (s.memory.size_newCell v).symm
    exact ⟨_, (h.newCell v).bind hlt (.inl (.inr rfl))⟩

end Arguments

namespace Arguments

variable {program : Program} {ctx : Context} {scope : ScopeId} {count fuel : Nat}
  {bs : List (String × Param)} {made : CellId → Prop} {s t : State}

theorem bindArgument (hlanguage : program.registry.OfLanguage)
    (h : Arguments ctx.scope scope count bs made s) {b : String × Param} (hb : b ∈ bs)
    (ht : ctx.bindArgument program (settle program fuel) scope b s = .ok () t) :
    ∃ made, Arguments ctx.scope scope count bs made t := by
  have hctx : (Veil.around ctx.scope count made).InFront ctx :=
    ⟨Veil.not_scopes_around, Veil.shows_around _⟩
  unfold Context.bindArgument at ht
  cases hsource : b.2.variableName? with
  | some source =>
    simp only [hsource] at ht
    obtain ⟨cell, r, hcell, hbind⟩ := Run.bind_eq_ok ht
    obtain ⟨rfl, hopen⟩ := Obeys.open_of_resolve hctx h.sound hcell
    cases hbind
    exact ⟨made, h.bind hopen.1 (.inr ⟨b, hb, by rw [hsource]; rfl, rfl⟩)⟩
  | none =>
    simp only [hsource] at ht
    obtain ⟨v, r, hv, hset⟩ := Run.bind_eq_ok ht
    have hevaluate : Obeys (Veil.around ctx.scope count made) program.registry Value
        (evaluate program (settle program fuel) ctx b.2)
        (evaluate program (settle program fuel) ctx b.2) :=
      (Obeys.quiet _ _).evaluate b.2 fun c _ =>
        Obeys.settle hlanguage (Veil.spares_line_around program) fuel ctx c hctx
          (Veil.spares_around c)
    have hsteps := hevaluate s h.sound
    rw [Run.after_of_ok hv] at hsteps
    cases hset
    exact (h.steps hsteps).set b.1 v

theorem bindArguments (hlanguage : program.registry.OfLanguage)
    (h : Arguments ctx.scope scope count bs made s) : ∀ list, list ⊆ bs →
      ctx.bindArguments program (settle program fuel) scope list s = .ok () t →
        ∃ made, Arguments ctx.scope scope count bs made t := by
  intro list
  induction list generalizing s made with
  | nil =>
    intro _ ht
    cases ht
    exact ⟨made, h⟩
  | cons b list ih =>
    intro hsub ht
    obtain ⟨_, r, hr, ht⟩ := Run.bind_eq_ok ht
    obtain ⟨made, h⟩ := h.bindArgument hlanguage (hsub List.mem_cons_self) hr
    exact ih h (fun x hx => hsub (List.mem_cons_of_mem _ hx)) ht

end Arguments

/-! ### The frame of a call -/

/-- The cells that a call withholds from its callee: those in the scope of the caller that are in no
slot and have not been handed over. -/
def Command.Withholds (c : Command) (caller callee : ScopeId) (s : State) (cell : CellId) : Prop :=
  (∃ name, s.memory.cellIn? caller name = some cell) ∧ (∀ k, s.slot? k ≠ some cell) ∧
    ¬ c.HandsOver callee s cell

/-- **The scope of a caller is as it was when the frame of the call was entered**: it has the same
names for the same cells, and the cells that the call withholds have the same values. -/
structure Undisturbed (ctx : Context) (c : Command) (j : Jump) (s t : State) : Prop where
  names : t.memory.names ctx.scope = s.memory.names ctx.scope
  read : ∀ cell, c.Withholds ctx.scope j.scope s cell → t.memory.read cell = s.memory.read cell

section Call

variable {program : Program} {fuel : Nat} {ctx : Context} {c : Command} {j : Jump} {s t : State}

/-- What a call has done when its frame is entered. -/
theorem exists_arguments (hlanguage : program.registry.OfLanguage) (hg : ctx.Grounded s)
    (h : execute program (settle program fuel) fuel ctx c s = .ok (.jump j) t)
    (hkind : j.kind = .call) :
    ctx.scope < j.scope ∧
      ∃ made, Arguments ctx.scope j.scope (j.scope + 1) c.arguments made t := by
  obtain ⟨line, r, hline, hbind, hj⟩ := call_eq_ok
    (execute_call (fun _ => hlanguage.isHost) h hkind)
  cases hj
  have hr : ctx.Grounded r := by
    have htarget : ctx.Grounded (((ctx.child c).labelTarget program 0).after s) :=
      hg.after ((Obeys.quiet _ program.registry).labelTarget 0)
    rwa [Run.after_of_ok hline] at htarget
  have hstart : Arguments (ctx.child c).scope r.memory.scopes.size (r.memory.scopes.size + 1)
      c.arguments (fun _ => False) { r with memory := r.memory.newScope.2 } := by
    refine ⟨⟨Nat.lt_succ_self _, Nat.ne_of_gt hr.scope_lt⟩, Veil.sound_around ?_ ?_ ?_ ?_, ?_⟩
    · exact fun _ hc => hc.elim
    · exact fun k cell hk => ⟨hr.slot_lt k cell hk, id⟩
    · intro name cell hcell
      rw [r.memory.cellIn?_newScope] at hcell
      exact ⟨hr.name_lt name cell hcell, id⟩
    · exact (Array.size_push _).symm
    · -- the new scope is empty
      intro name cell hcell
      rw [r.memory.cellIn?_newScope, r.memory.cellIn?_of_size_le _ name (Nat.le_refl _)] at hcell
      cases hcell
  have hbound := Arguments.bindArguments hlanguage hstart _ (List.Subset.refl _) hbind
  exact ⟨hr.scope_lt, hbound⟩

/-- The frame of a call starts on solid ground as well. -/
theorem grounded_callee (hlanguage : program.registry.OfLanguage) (hg : ctx.Grounded s)
    (h : execute program (settle program fuel) fuel ctx c s = .ok (.jump j) t)
    (hkind : j.kind = .call) {callee : Context} (hcallee : callee.scope = j.scope) :
    callee.Grounded t := by
  obtain ⟨-, made, hargs⟩ := exists_arguments hlanguage hg h hkind
  exact
    { scope_lt := hcallee ▸ hargs.sound.scope_lt _ hargs.hidden
      name_lt := fun name cell hcell => (hargs.held name cell (hcallee ▸ hcell)).1
      slot_lt := fun k cell hk => (hargs.sound.slot k cell id hk).1 }

/-- The callee starts in front of a veil over what is withheld from it. -/
theorem Arguments.sound_callee {caller callee : ScopeId} {count : Nat} {made : CellId → Prop}
    (h : Arguments caller callee count c.arguments made s) :
    (Veil.around callee s.memory.scopes.size (c.Withholds caller callee s)).Sound s := by
  have hcaller : ∀ cell, c.Withholds caller callee s cell → cell < s.memory.cells.size ∧
      ¬ made cell := by
    rintro cell ⟨⟨name, hcell⟩, -, -⟩
    exact h.sound.name _ name cell Veil.not_scopes_around hcell
  refine Veil.sound_around (fun cell hcell => (hcaller cell hcell).1) ?_ ?_ rfl
  · intro k cell hk
    exact ⟨(h.sound.slot k cell id hk).1, fun hheld => hheld.2.1 k hk⟩
  · intro name cell hcell
    obtain ⟨hlt, hmade | ⟨b, hb, hbare, hname⟩⟩ := h.held name cell hcell
    · exact ⟨hlt, fun hheld => (hcaller cell hheld).2 hmade⟩
    · exact ⟨hlt, fun hheld => hheld.2.2 ⟨b, hb, hbare, hname ▸ hcell⟩⟩

/-- **A call leaves the scope of the caller alone.** In a program over the commands of the language,
the frame of a `DO` takes the state through changes each of which leaves that scope as it was when
the frame was entered, up to the state in which the frame ends, be it with a result or with a
fault. -/
theorem follow_undisturbed (hlanguage : program.registry.OfLanguage) (hg : ctx.Grounded s)
    (h : execute program (settle program fuel) fuel ctx c s = .ok (.jump j) t)
    (hkind : j.kind = .call) :
    ReflTransGen (fun a b => Change program.registry a b ∧ Undisturbed ctx c j t b) t
      ((follow program (settle program fuel) ctx j).after t) := by
  obtain ⟨hlt, made, hargs⟩ := exists_arguments hlanguage hg h hkind
  have hcaller : ctx.scope < t.memory.scopes.size ∧ ctx.scope ≠ j.scope :=
    ⟨Nat.lt_trans hlt (hargs.sound.scope_lt _ hargs.hidden), Nat.ne_of_lt hlt⟩
  have hfollow := Obeys.follow (Veil.spares_line_around program)
    (Obeys.settle hlanguage (Veil.spares_line_around program) fuel) (Veil.shows_around ctx.actor.id)
    Veil.not_scopes_around t hargs.sound_callee
  exact ReflTransGen.mono (fun _ _ hab => ⟨hab.1, hab.2.names _ hcaller, hab.2.read⟩) _ _
    (Veil.Steps.keeps_throughout hfollow)

end Call

/-! ### An example -/

/-- The command `DO: OTHER WITH X = V`. -/
def handingCall : Command where
  name := "DO"
  params := [.value (.text "OTHER"), .bindings [("X", .variable "V")]]
  line := 0

/-- The script of the call and the lines `OTHER: SET-HERE: X = "new"` and `SET-HERE: K = "new"`. -/
def handingScript : Script where
  labels := ⟨[("OTHER", 1)]⟩
  lineLabels := ⟨[(1, "OTHER")]⟩
  commands := ⟨[(0, handingCall),
    (1, ⟨"SET-HERE", [.value (.text "X"), .value (.text "new")], 1⟩),
    (2, ⟨"SET-HERE", [.value (.text "K"), .value (.text "new")], 2⟩)]⟩
  startLine := 0
  lineCount := 3

/-- The script under the commands of the language. -/
def handingProgram : Program where
  script := handingScript
  registry := Registry.builtin

/-- The context of the call in a first frame. -/
def handingContext : Context :=
  Frame.context ⟨⟨"c1", "BOB"⟩, 0, 0, false⟩ handingCall

/-- The state in which a run starts for which the host binds `K` and `V`. -/
def handingState : State :=
  (handingProgram.bindHostNames 0 ⟨"c1", "BOB"⟩ [("K", .text "old"), ("V", .text "old")]).after
    { memory := (Memory.newScope {}).2 }

/-- The state in which the frame of the call is entered. -/
def handingEntered : State :=
  (execute handingProgram (settle handingProgram 1) 1 handingContext handingCall).after
    handingState

/-- The state in which the frame of the call is left. -/
def handingLeft : State :=
  (follow handingProgram (settle handingProgram 1) handingContext ⟨.call, 1, 1⟩).after
    handingEntered

theorem handingContext_grounded : handingContext.Grounded handingState := by
  refine Context.Grounded.start (s := {}) (fun k cell hcell => ?_) rfl _
  cases k <;> cases hcell

/-- The callee sets its own `K` and, through `X`, the `V` of the caller. -/
theorem follow_undisturbed_handing :
    execute handingProgram (settle handingProgram 1) 1 handingContext handingCall handingState =
        .ok (.jump ⟨.call, 1, 1⟩) handingEntered ∧
      handingLeft.memory.read 1 = .text "new" ∧ handingLeft.memory.read 0 = .text "old" := by
  have hexecute : execute handingProgram (settle handingProgram 1) 1 handingContext handingCall
      handingState = .ok (.jump ⟨.call, 1, 1⟩) handingEntered := rfl
  refine ⟨hexecute, rfl, ?_⟩
  have hchain := follow_undisturbed Registry.ofLanguage_builtin handingContext_grounded hexecute rfl
  have hslot : ∀ k, handingEntered.slot? k ≠ some 0 := by
    intro k hk
    cases k <;> cases hk
  have hover : ¬ handingCall.HandsOver 1 handingEntered 0 := by
    rintro ⟨b, hb, -, hcell⟩
    cases List.mem_singleton.mp hb
    cases hcell
  rcases hchain.cases_tail with hleft | ⟨b, -, -, hleft⟩
  · exact (congrArg (fun s => s.memory.read 0) hleft).trans rfl
  · exact (hleft.read 0 ⟨⟨"K", rfl⟩, hslot, hover⟩).trans rfl

end StageScript
