import StageScript.Proofs.Engine.CalleeScope
import StageScript.Proofs.Store.Names

/-!
# Setting a variable is all or nothing

A command that sets or removes variables has changed none of them when it fails. Its slots are read
first, and reading them changes nothing as long as no command is nested in them. What is left can
fail only where a new name is refused, and then nothing has been written yet.

This is not plain for the commands with targets, which write for one character after the other. That
they do not stop half-way is because the refusal of a name does not depend on the character. If the
first character had the name already, no one asked whether it may be created; but then it may, for
the names of world, program and characters are apart and none of them is the name of a command
(`Tidy.refusal_eq_none`). So once a character has the name, all others can have it too
(`Tidy.assignEach`).
-/

namespace StageScript

/-- Two states with the same cells, scopes and stores. The meanings chosen for operators and the log
may differ. -/
structure State.SameVariables (s t : State) : Prop where
  memory : t.memory = s.memory
  world : t.world = s.world
  own : t.own = s.own

/-- **A run that changes no variable if it stops.** -/
def Run.Atomic {α : Type} (m : Run α) (s : State) : Prop :=
  ∀ e t, m s = .error e t → s.SameVariables t

namespace State.SameVariables

variable {s t u : State}

theorem refl (s : State) : s.SameVariables s := ⟨rfl, rfl, rfl⟩

theorem trans (h : s.SameVariables t) (h' : t.SameVariables u) : s.SameVariables u :=
  ⟨h'.memory.trans h.memory, h'.world.trans h.world, h'.own.trans h.own⟩

theorem of_still {α : Type} {m : Run α} (h : Still α m m) (s : State) :
    s.SameVariables (m.after s) := by
  obtain ⟨hmemory, hworld, hown⟩ := h s
  exact ⟨hmemory, hworld, hown⟩

theorem tidy {registry : Registry} (h : s.SameVariables t) (hs : Tidy registry s) :
    Tidy registry t := by
  have hsize : s.memory.cells.size ≤ t.memory.cells.size :=
    Nat.le_of_eq (congrArg (·.cells.size) h.memory).symm
  exact hs.of_stores_eq h.world h.own hsize

end State.SameVariables

namespace Run.Atomic

variable {α β : Type} {m : Run α} {f : α → Run β} {s : State}

theorem of_ok {a : α} {t : State} (h : m s = .ok a t) : m.Atomic s := by
  intro e u he
  cases h.symm.trans he

theorem of_still (h : Still α m m) (s : State) : m.Atomic s := by
  intro e t he
  have hsame := State.SameVariables.of_still h s
  rw [Run.after_of_error he] at hsame
  exact hsame

/-- A run behind one that changes no variable. -/
theorem bind_of_still (hm : Still α m m)
    (hf : ∀ a t, m s = .ok a t → s.SameVariables t → (f a).Atomic t) : (m >>= f).Atomic s := by
  intro e u he
  rcases Run.bind_eq_error he with he | ⟨a, t, ha, he⟩
  · exact of_still hm s e u he
  · have hsame := State.SameVariables.of_still hm s
    rw [Run.after_of_ok ha] at hsame
    exact hsame.trans (hf a t ha hsame e u he)

/-- A run behind which nothing is left to do. -/
theorem bind_pure (hm : m.Atomic s) (b : β) : (m >>= fun _ => pure b).Atomic s := by
  intro e u he
  rcases Run.bind_eq_error he with he | ⟨a, t, -, he⟩
  · exact hm e u he
  · cases he

end Run.Atomic

/-! ### Setting one name -/

section Assign

variable {program : Program} {ctx : Context} {s : State} {tier : Tier} {name : String} {v : Value}

/-- A name that is refused is not set. -/
theorem Context.assignFor_atomic (id : String) :
    (ctx.assignFor program tier name v id).Atomic s := by
  cases ha : s.assign program.registry tier ctx.scope id name v with
  | ok t => exact .of_ok (Run.atLine_of_ok ctx.line (Run.assign_of_ok ha))
  | error f =>
    intro e t he
    cases (Run.atLine_of_error ctx.line (Run.assign_of_error ha)).symm.trans he
    exact .refl s

/-- A name of a character may be created for every character. -/
theorem Tidy.refusal_eq_none {registry : Registry} (h : Tidy registry s) {k : Slot}
    (htier : tier = .characterLocal ∨ tier = .characterGlobal) (hk : k.holder = .characters)
    (hslot : (s.slot? k).isSome) : s.refusal? registry tier k.name = none := by
  obtain ⟨hcommand, hreserved⟩ := h.free k hslot
  have hworld : s.world.shared.contains k.name = false := by
    by_contra hne
    have hsome : (s.slot? (.world k.name)).isSome := (Bool.not_eq_false _).mp hne
    have hholder := h.apart (.world k.name) k rfl hsome hslot
    rw [hk] at hholder
    cases hholder
  have hprogram : s.own.shared.contains k.name = false := by
    by_contra hne
    have hsome : (s.slot? (.program k.name)).isSome := (Bool.not_eq_false _).mp hne
    have hholder := h.apart (.program k.name) k rfl hsome hslot
    rw [hk] at hholder
    cases hholder
  have hconflict : s.conflict? tier k.name = none := by
    rcases htier with rfl | rfl <;> simp [State.conflict?, hworld, hprogram]
  unfold State.refusal?
  rw [hcommand, hreserved, hconflict]
  rfl

/-- Once a character has a name, it is refused for no other. -/
theorem Tidy.refusal_of_assign {registry : Registry} {scope : ScopeId} {id : String} {t : State}
    (h : Tidy registry s) (htier : tier = .characterLocal ∨ tier = .characterGlobal)
    (ha : s.assign registry tier scope id name v = .ok t) :
    t.refusal? registry tier name = none := by
  obtain ⟨k, hk, hholder⟩ : ∃ k, Slot.of? tier id name = some k ∧ k.holder = .characters := by
    rcases htier with rfl | rfl
    · exact ⟨_, rfl, rfl⟩
    · exact ⟨_, rfl, rfl⟩
  obtain ⟨cell, hcell, -⟩ := read_of_assign h ha hk
  have htidy : Tidy registry t := h.change (.assign ha)
  have hnone := htidy.refusal_eq_none htier hholder (by rw [hcell]; rfl)
  rwa [Slot.name_of_of? hk] at hnone

/-! ### Setting a name for several characters -/

/-- A name that is not refused is set for all characters. By induction on them: the stores stay
tidy, and the name is not refused for the next one. -/
theorem Tidy.assignEach_ok (h : Tidy program.registry s)
    (htier : tier = .characterLocal ∨ tier = .characterGlobal)
    (hrefusal : s.refusal? program.registry tier name = none) (ids : List String) :
    ∃ t, (ids.forM fun id => ctx.assignFor program tier name v id) s = .ok () t := by
  induction ids generalizing s with
  | nil => exact ⟨s, rfl⟩
  | cons id ids ih =>
    obtain ⟨t, ht⟩ : ∃ t, s.assign program.registry tier ctx.scope id name v = .ok t := by
      unfold State.assign
      cases s.inTier? tier ctx.scope id name with
      | some cell => exact ⟨_, rfl⟩
      | none =>
        rw [hrefusal]
        exact ⟨_, rfl⟩
    have hfirst : ctx.assignFor program tier name v id s = .ok () t :=
      Run.atLine_of_ok ctx.line (Run.assign_of_ok ht)
    obtain ⟨u, hu⟩ := ih (h.change (.assign ht)) (h.refusal_of_assign htier ht)
    exact ⟨u, (Run.bind_of_ok hfirst).trans hu⟩

/-- **A name is set for all characters or for none.** -/
theorem Tidy.assignEach_atomic (h : Tidy program.registry s)
    (htier : tier = .characterLocal ∨ tier = .characterGlobal) (ids : List String) :
    Run.Atomic (ids.forM fun id => ctx.assignFor program tier name v id) s := by
  cases ids with
  | nil => exact .of_ok rfl
  | cons id ids =>
    intro e u he
    rcases Run.bind_eq_error he with he | ⟨⟨⟩, t, ht, he⟩
    · exact ctx.assignFor_atomic id e u he
    · have ha := Run.assign_eq_ok (Run.atLine_eq_ok ht)
      obtain ⟨u', hu'⟩ : ∃ u', (ids.forM fun id => ctx.assignFor program tier name v id) t =
          .ok () u' :=
        Tidy.assignEach_ok (h.change (.assign ha)) htier (h.refusal_of_assign htier ha) ids
      cases hu'.symm.trans he

/-- Removing a name does not fail. -/
theorem Context.unassignEach_ok (ids : List String) :
    ∃ t, (ids.forM fun id => ctx.unassignFor tier name id) s = .ok () t := by
  induction ids generalizing s with
  | nil => exact ⟨s, rfl⟩
  | cons id ids ih => exact ih

end Assign

/-! ### The commands -/

section Commands

variable {program : Program} {settle : Settle} {ctx : Context} {s : State}
  (hplain : ∀ p ∈ ctx.command.params, p.commands = [])
include hplain

/-- A slot of a command that has no command nested in it. -/
theorem Context.commands_param (index : Nat) : (ctx.param index).commands = [] := by
  unfold Context.param Command.param
  rw [List.getD_eq_getElem?_getD]
  cases hp : ctx.command.params[index]? with
  | none => rfl
  | some p => exact hplain p (List.mem_of_getElem? hp)

theorem Context.value_still (index : Nat) :
    Still Value (ctx.value program settle index) (ctx.value program settle index) :=
  evaluate_still program settle ctx (Context.commands_param hplain index)

theorem Context.targetIds_still :
    Still (List String) (ctx.targetIds program settle) (ctx.targetIds program settle) := by
  have hcommands : ∀ c ∈ (ctx.param 0).commands, Still Settled (settle ctx c) (settle ctx c) := by
    simp [Context.commands_param hplain 0]
  refine Still.quiet.bind (Still.quiet.collection hcommands) fun targets _ => ?_
  refine Still.quiet.mapM (fun v => ?_) _
  unfold Context.targetId
  split
  · exact Still.quiet.pure _
  · exact Still.quiet.contextFail _

omit hplain in
theorem Context.name_still (index : Nat) : Still String (ctx.name index) (ctx.name index) :=
  Still.quiet.slotName index

theorem Context.setVariable_atomic (tier : Tier) :
    (ctx.setVariable program settle tier).Atomic s := by
  refine .bind_of_still (name_still 0) fun name t _ _ => ?_
  refine .bind_of_still (value_still hplain 1) fun v u _ _ => ?_
  exact (ctx.assignFor_atomic ctx.actor.id).bind_pure _

omit hplain in
/-- A name that is refused in the scope is not bound. -/
theorem Context.shareCell_atomic (name source : String) :
    (ctx.shareCell program name source).Atomic s := by
  refine .bind_of_still (Still.quiet.resolve source) fun cell t _ _ => ?_
  refine .bind_of_still Still.quiet.memory fun memory u _ _ => ?_
  dsimp only
  split
  · intro e r he
    rcases Run.bind_eq_error he with he | ⟨_, _, -, he⟩
    · exact ctx.assignFor_atomic ctx.actor.id e r he
    · cases he
  · exact .of_ok rfl

theorem Context.setHere_atomic : (ctx.setHere program settle).Atomic s := by
  refine .bind_of_still (name_still 0) fun name t _ _ => ?_
  split
  · exact ctx.shareCell_atomic name _
  · refine .bind_of_still (value_still hplain 1) fun v u _ _ => ?_
    exact (ctx.assignFor_atomic ctx.actor.id).bind_pure _

omit hplain in
theorem Context.unsetVariable_atomic (tier : Tier) : (ctx.unsetVariable tier).Atomic s :=
  .bind_of_still (name_still 0) fun _ _ _ _ => .of_ok rfl

theorem Context.setFor_atomic (h : Tidy program.registry s) {tier : Tier}
    (htier : tier = .characterLocal ∨ tier = .characterGlobal) :
    (ctx.setFor program settle tier).Atomic s := by
  refine .bind_of_still (targetIds_still hplain) fun ids t _ ht => ?_
  refine .bind_of_still (name_still 1) fun name u _ hu => ?_
  refine .bind_of_still (value_still hplain 2) fun v r _ hr => ?_
  have htidy : Tidy program.registry r := ((ht.trans hu).trans hr).tidy h
  exact (htidy.assignEach_atomic htier ids).bind_pure _

theorem Context.unsetFor_atomic (tier : Tier) : (ctx.unsetFor program settle tier).Atomic s := by
  refine .bind_of_still (targetIds_still hplain) fun ids t _ _ => ?_
  refine .bind_of_still (name_still 1) fun name u _ _ => ?_
  obtain ⟨r, hr⟩ : ∃ r, (ids.forM fun id => ctx.unassignFor tier name id) u = .ok () r :=
    ctx.unassignEach_ok ids
  exact (Run.Atomic.of_ok hr).bind_pure _

end Commands

/-- What the commands of the language that set or remove variables do. Those with targets work on
the variables of characters. -/
def Behaviour.setsVariables : Behaviour → Bool
  | .set _ | .setHere | .unset _ | .unsetFor _ => true
  | .setFor tier => tier = .characterLocal || tier = .characterGlobal
  | _ => false

theorem Registry.setsVariables_of_mem :
    ∀ type ∈ Registry.variableCommands, type.behaviour.setsVariables = true := by
  decide

theorem perform_atomic {program : Program} {settle : Settle} {budget : Nat} {ctx : Context}
    {type : CommandType} {s : State} (h : Tidy program.registry s)
    (htype : type.behaviour.setsVariables = true)
    (hplain : ∀ p ∈ ctx.command.params, p.commands = []) :
    (perform program settle budget ctx type).Atomic s := by
  obtain ⟨signature, behaviour⟩ := type
  cases behaviour with
  | set tier => exact Context.setVariable_atomic hplain tier
  | setHere => exact Context.setHere_atomic hplain
  | unset tier => exact Context.unsetVariable_atomic tier
  | setFor tier =>
    have htier : tier = .characterLocal ∨ tier = .characterGlobal := by
      simpa [Behaviour.setsVariables] using htype
    exact Context.setFor_atomic hplain h htier
  | unsetFor tier => exact Context.unsetFor_atomic hplain tier
  | _ => cases htype

/-- **A command that sets or removes variables changes none of them if it fails.** This holds of
every command of the language that does so, with no command nested in its params, in every state
that can be reached by one program on a world of its own. The cells keep their values, the scopes
and the stores their names, whatever the number of targets. -/
theorem Reached.failed_set_changes_nothing {program : Program} {s t : State}
    (h : Reached program.registry s) {settle : Settle} {budget : Nat} {ctx : Context} {c : Command}
    {type : CommandType} (htype : program.registry.get? c.name = some type)
    (hset : type ∈ Registry.variableCommands) (hplain : ∀ p ∈ c.params, p.commands = []) {e : Stop}
    (hfail : execute program settle budget ctx c s = .error e t) :
    t.memory = s.memory ∧ t.world = s.world ∧ t.own = s.own := by
  unfold execute at hfail
  rw [htype] at hfail
  have hatomic : (perform program settle budget (ctx.child c) type).Atomic s :=
    perform_atomic h.tidy (Registry.setsVariables_of_mem type hset) hplain
  obtain ⟨hmemory, hworld, hown⟩ := hatomic e t hfail
  exact ⟨hmemory, hworld, hown⟩

/-! ### An example -/

/-- The commands of the language on a stage with two characters. -/
def pairProgram : Program where
  script := markScript
  registry := Registry.builtin
  directory := { characters := [⟨"c1", "BOB"⟩, ⟨"c2", "ALICE"⟩] }

/-- What `SET-FOR: [ALICE, BOB] : A = "z"` compiles to. -/
def setForPair : Command where
  name := "SET-FOR"
  params := [.collection .character false false [.variable "ALICE", .variable "BOB"], .ofText "A",
    .value (.text "z")]
  line := 0

/-- What is left behind by setting `A` for both characters where the world has it. -/
def refusedPair : State :=
  (execute pairProgram (settle pairProgram 1) 1 plainContext setForPair).after marked

theorem failed_set_changes_nothing_pair :
    (plainLine "SET-FOR: [ALICE, BOB] : A = \"z\"").parse = .ok setForPair ∧
      execute pairProgram (settle pairProgram 1) 1 plainContext setForPair marked =
        .error (.fault (.on 0 (.tierConflict .characterGlobal "A" .world))) refusedPair ∧
      refusedPair.memory = marked.memory ∧ refusedPair.world = marked.world ∧
      refusedPair.own = marked.own := by
  have hreached : Reached pairProgram.registry marked :=
    .run 1 _ (rfl : markProgram.registry = pairProgram.registry) (.start rfl rfl)
  have hplain : ∀ p ∈ setForPair.params, p.commands = [] := by
    simp [setForPair, Param.commands, itemCommands, Param.ofText]
  have hfail : execute pairProgram (settle pairProgram 1) 1 plainContext setForPair marked =
      .error (.fault (.on 0 (.tierConflict .characterGlobal "A" .world))) refusedPair := by
    with_unfolding_all rfl
  have hset : Registry.setForCommand "SET-FOR" .characterGlobal ∈ Registry.variableCommands := by
    simp [Registry.variableCommands]
  refine ⟨by with_unfolding_all rfl, hfail, ?_⟩
  exact hreached.failed_set_changes_nothing (by with_unfolding_all rfl) hset hplain hfail

end StageScript
