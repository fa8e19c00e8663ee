import StageScript.Engine.Settle
import StageScript.Proofs.Engine.Congruence

/-!
# Relations that commands respect

What a command does is respected by a relation, if two ways to settle its inner commands are related
(`Agree`) and the relation holds of what a command does to the state in its context
(`CongruenceIn`). Every congruence does so in all contexts. The loops whose number of passes is not
known beforehand need more: they run on a budget, which is the same for both runs, or else a run
that has used up the smaller one must be related to every other (`Lax`, `Granted`). The main
statement is `CongruenceIn.execute`; the lemmas before it go through the behaviours one by one.
-/

namespace StageScript

/-- Commands whose number of passes is not known when they start. -/
def Behaviour.isOpenEnded : Behaviour → Bool
  | .repeatWhile _ | .repeatFor | .countdownWith | .countUpWith | .always => true
  | _ => false

/-- Commands that set or remove variables of characters other than the actor. -/
def Behaviour.isTargeted : Behaviour → Bool
  | .setFor _ | .unsetFor _ => true
  | _ => false

/-- Two ways to settle the commands in the slots of a command are related, whatever `LOOP-INDEX`
is. -/
def Agree (R : (α : Type) → Run α → Run α → Prop) (settle settle' : Settle) (ctx : Context) :
    Prop :=
  ∀ index, ∀ c ∈ ctx.command.inner,
    R Settled (settle { ctx with loopIndex := index } c) (settle' { ctx with loopIndex := index } c)

/-- A run that has used up its passes is related to every run. -/
def Lax (R : (α : Type) → Run α → Run α → Prop) : Prop :=
  ∀ {α : Type} (m : Run α), R α Context.exhausted m

/-- **Two budgets on which loops are related**: the same one, or two of which the first is the
smaller, for a relation in which a run that has used up its passes is related to every run. -/
inductive Granted (R : (α : Type) → Run α → Run α → Prop) : (budget budget' : Nat) → Prop
  | same (h : R Outcome Context.exhausted Context.exhausted) (budget : Nat) :
    Granted R budget budget
  | more (lax : Lax R) {budget budget' : Nat} (h : budget ≤ budget') : Granted R budget budget'

/-- Loops on two budgets are related if their passes are. -/
theorem Granted.loop {R : (α : Type) → Run α → Run α → Prop} {budget budget' : Nat}
    (hb : Granted R budget budget') {loop loop' : Nat → Run Outcome}
    (hzero : loop 0 = Context.exhausted) (hzero' : loop' 0 = Context.exhausted)
    (hpass : ∀ n n', R Outcome (loop n) (loop' n') → R Outcome (loop (n + 1)) (loop' (n' + 1))) :
    R Outcome (loop budget) (loop' budget') := by
  cases hb with
  | same h =>
    induction budget with
    | zero =>
      rw [hzero, hzero']
      exact h
    | succ budget ih => exact hpass _ _ ih
  | more lax h =>
    induction budget generalizing budget' with
    | zero =>
      rw [hzero]
      exact lax _
    | succ budget ih =>
      obtain ⟨budget', rfl⟩ : ∃ k, budget' = k + 1 := ⟨budget' - 1, by omega⟩
      exact hpass _ _ (ih (by omega))

/-- **A relation that commands respect in a context.** The cells and the scope that a command works
on are those it has found or made, so what goes on with them may count on working on them. -/
structure CongruenceIn (R : (α : Type) → Run α → Run α → Prop) (program : Program)
    (ctx : Context) : Prop extends Quiet R where
  resolved {β : Type} (name : String) {k k' : CellId → Run β}
    (hk : ∀ cell, (∀ v, R Unit (Run.write cell v) (Run.write cell v)) → R β (k cell) (k' cell)) :
    R β (ctx.resolve name >>= k) (ctx.resolve name >>= k')
  shareCell (name source : String) :
    R Outcome (ctx.shareCell program name source) (ctx.shareCell program name source)
  inNewScope {β : Type} {k k' : ScopeId → Run β}
    (hk : ∀ scope,
      (∀ name source, R Unit (ctx.resolve source >>= Run.bind scope name)
        (ctx.resolve source >>= Run.bind scope name)) →
      (∀ name v, R Unit (Run.setIn scope name v) (Run.setIn scope name v)) →
        R β (k scope) (k' scope)) :
    R β (Run.newScope >>= k) (Run.newScope >>= k')
  assign (tier : Tier) (name : String) (v : Value) :
    R Unit (ctx.assign program tier name v) (ctx.assign program tier name v)
  unassign (tier : Tier) (name : String) :
    R Unit (ctx.unassign tier name) (ctx.unassign tier name)

/-- The relation holds of setting and removing variables of any character. -/
def Targets (R : (α : Type) → Run α → Run α → Prop) (program : Program) (ctx : Context) : Prop :=
  ∀ (tier : Tier) (name id : String),
    (∀ v, R Unit (ctx.assignFor program tier name v id) (ctx.assignFor program tier name v id)) ∧
    R Unit (ctx.unassignFor tier name id) (ctx.unassignFor tier name id)

section Congruence

variable {R : (α : Type) → Run α → Run α → Prop} {program : Program}
  (h : Congruence program.registry R) (ctx : Context)
include h

theorem Congruence.targets : Targets R program ctx := fun tier name id =>
  ⟨fun v => h.atLine _ (h.assign tier ctx.scope id name v), h.unassign tier ctx.scope id name⟩

theorem Congruence.inContext : CongruenceIn R program ctx where
  toQuiet := h.toQuiet
  resolved name _ _ hk := h.bind (h.resolve name) fun cell _ => hk cell (h.write cell)
  shareCell name source := by
    have hassign := (h.targets ctx .temp name ctx.actor.id).1
    refine h.bind (h.resolve source) fun cell _ => h.bind h.memory fun memory _ => ?_
    dsimp only
    split
    · exact h.bind (hassign _) fun _ _ => h.bind (h.bindName _ _ _) fun _ _ => h.pure _
    · exact h.bind (h.bindName _ _ _) fun _ _ => h.pure _
  inNewScope hk := h.bind h.newScope fun scope _ =>
    hk scope (fun name source => h.bind (h.resolve source) fun cell _ => h.bindName scope name cell)
      (h.setIn scope)
  assign tier name v := (h.targets ctx tier name _).1 v
  unassign tier name := (h.targets ctx tier name _).2

end Congruence

namespace Quiet

variable {R : (α : Type) → Run α → Run α → Prop} {program : Program} {settle settle' : Settle}
  {ctx : Context}

theorem mem_inner_of_body {index : Nat} {c : Command} (hc : (ctx.body index).Returns c) :
    c ∈ ctx.command.inner := by
  obtain ⟨s, s', hc⟩ := hc
  unfold Context.body at hc
  cases hp : (ctx.param index).command? with
  | some d =>
    rw [hp] at hc
    cases hc
    exact Command.mem_inner_of_command? hp
  | none =>
    rw [hp] at hc
    cases hc

section Slots

variable (h : Quiet R)
include h

/-! ### Slots -/

theorem slotName (index : Nat) : R String (ctx.name index) (ctx.name index) := by
  unfold Context.name
  split
  · exact h.pure _
  · exact h.contextFail _

theorem cellSlot (index : Nat) : R CellId (ctx.cellSlot index) (ctx.cellSlot index) := by
  unfold Context.cellSlot
  split
  · exact h.resolve _
  · exact h.contextFail _

theorem body (index : Nat) : R Command (ctx.body index) (ctx.body index) := by
  unfold Context.body
  split
  · exact h.pure _
  · exact h.contextFail _

theorem labelBehind? (name : String) :
    R (Option Nat) (ctx.labelBehind? program name) (ctx.labelBehind? program name) := by
  refine h.bind (h.lookUp ctx name) fun cell _ => ?_
  split
  · exact h.pure _
  · refine h.bind (h.read _) fun v _ => ?_
    split
    · exact h.pure _
    · exact h.pure _

theorem labelTarget (index : Nat) :
    R Nat (ctx.labelTarget program index) (ctx.labelTarget program index) := by
  refine h.bind (h.slotName index) fun label _ => ?_
  split
  · exact h.pure _
  · refine h.bind (h.labelBehind? label) fun line _ => ?_
    split
    · exact h.pure _
    · exact h.contextFail _

section Evaluated

variable {index : Nat}
  (hs : ∀ c ∈ (ctx.param index).commands, R Settled (settle ctx c) (settle' ctx c))
include hs

theorem value : R Value (ctx.value program settle index) (ctx.value program settle' index) :=
  h.evaluate _ hs

theorem number : R Number (ctx.number program settle index) (ctx.number program settle' index) := by
  refine h.bind (h.value hs) fun v _ => ?_
  split
  · exact h.pure _
  · exact h.contextFail _

theorem text : R String (ctx.text program settle index) (ctx.text program settle' index) := by
  refine h.bind (h.value hs) fun v _ => ?_
  split
  · exact h.pure _
  · exact h.contextFail _

theorem boolean :
    R Bool (ctx.boolean program settle index) (ctx.boolean program settle' index) := by
  refine h.bind (h.value hs) fun v _ => ?_
  split
  · exact h.pure _
  · exact h.contextFail _

theorem collection :
    R Collection (ctx.collection program settle index) (ctx.collection program settle' index) := by
  refine h.bind (h.value hs) fun v _ => ?_
  split
  · exact h.pure _
  · exact h.contextFail _

theorem runCommand : R Settled (ctx.runCommand settle index) (ctx.runCommand settle' index) := by
  unfold Context.runCommand
  split
  · next c hc => exact hs c (by rw [hc, Param.commands]; exact List.mem_singleton_self c)
  · exact h.pure _
  · exact h.contextFail _

end Evaluated

theorem mapM {α β : Type} {f : α → Run β} (hf : ∀ a, R β (f a) (f a)) (l : List α) :
    R (List β) (l.mapM f) (l.mapM f) := by
  induction l with
  | nil =>
    rw [List.mapM_nil]
    exact h.pure _
  | cons a l ih =>
    rw [List.mapM_cons]
    exact h.bind (hf a) fun b _ => h.bind ih fun bs _ => h.pure _

theorem forM {α : Type} {f : α → Run Unit} (hf : ∀ a, R Unit (f a) (f a)) (l : List α) :
    R PUnit (l.forM f) (l.forM f) := by
  induction l with
  | nil => exact h.pure _
  | cons a l ih => exact h.bind (hf a) fun _ _ => ih

end Slots

section Agree

variable (h : Quiet R) (hs : Agree R settle settle' ctx)

include hs in
theorem agree_param (index : Nat) :
    ∀ c ∈ (ctx.param index).commands, R Settled (settle ctx c) (settle' ctx c) :=
  fun c hc => hs ctx.loopIndex c (Command.mem_inner_of_mem_param hc)

include h

include hs

theorem targetIds :
    R (List String) (ctx.targetIds program settle) (ctx.targetIds program settle') := by
  refine h.bind (h.collection (agree_param hs 0)) fun targets _ => h.mapM (fun v => ?_) _
  unfold Context.targetId
  split
  · exact h.pure _
  · exact h.contextFail _

section Targeted

variable (ht : Targets R program ctx)
include ht

theorem setFor (tier : Tier) :
    R Outcome (ctx.setFor program settle tier) (ctx.setFor program settle' tier) :=
  h.bind (h.targetIds hs) fun ids _ => h.bind (h.slotName 1) fun name _ =>
    h.bind (h.value (agree_param hs 2)) fun v _ =>
      h.bind (h.forM (fun id => (ht tier name id).1 v) ids) fun _ _ => h.pure _

theorem unsetFor (tier : Tier) :
    R Outcome (ctx.unsetFor program settle tier) (ctx.unsetFor program settle' tier) :=
  h.bind (h.targetIds hs) fun ids _ => h.bind (h.slotName 1) fun name _ =>
    h.bind (h.forM (fun id => (ht tier name id).2) ids) fun _ _ => h.pure _

end Targeted

/-! ### Steering -/

omit hs in
theorem goTo : R Outcome (ctx.goTo program) (ctx.goTo program) :=
  h.bind (h.labelTarget 0) fun _ _ => h.pure _

omit hs in
/-- A branch depends only on how the commands in its condition are settled. -/
theorem branch (negated : Bool)
    (hs : ∀ c ∈ (ctx.param 0).commands, R Settled (settle ctx c) (settle' ctx c)) :
    R Outcome (ctx.branch program settle negated) (ctx.branch program settle' negated) := by
  refine h.bind (h.boolean hs) fun condition _ => ?_
  split
  · exact h.pure _
  · exact h.pure _

theorem sendValue (signal : Value → Signal) :
    R Outcome (ctx.sendValue program settle signal) (ctx.sendValue program settle' signal) :=
  h.bind (h.value (agree_param hs 0)) fun _ _ => h.pure _

/-! ### Repeating -/

omit hs in
theorem pass {c : Command} (hc : R Settled (settle ctx c) (settle' ctx c)) :
    R (Option Signal) (Context.pass settle ctx c) (Context.pass settle' ctx c) := by
  refine h.bind hc fun settled _ => ?_
  cases settled with
  | value v => exact h.pure _
  | signal s => exact h.pure _

omit h in
/-- The commands of a body, in the place of the context or with `LOOP-INDEX` bound. -/
theorem agree_body {c : Command} (hc : c ∈ ctx.command.inner) :
    R Settled (settle ctx c) (settle' ctx c) := hs ctx.loopIndex c hc

theorem countDown {c : Command} (hc : c ∈ ctx.command.inner) (count : Nat) :
    R Outcome (ctx.countDown settle c count) (ctx.countDown settle' c count) := by
  induction count with
  | zero => exact h.pure _
  | succ count ih =>
    refine h.bind (h.pass (hs (some _) c hc)) fun signal _ => ?_
    split
    · exact h.pure _
    · exact ih

theorem countUp {c : Command} (hc : c ∈ ctx.command.inner) (count index : Nat) :
    R Outcome (ctx.countUp settle c count index) (ctx.countUp settle' c count index) := by
  induction count generalizing index with
  | zero => exact h.pure _
  | succ count ih =>
    refine h.bind (h.pass (hs (some _) c hc)) fun signal _ => ?_
    split
    · exact h.pure _
    · exact ih _

theorem counted (descending : Bool) :
    R Outcome (ctx.counted program settle descending) (ctx.counted program settle' descending) := by
  refine h.bind (h.number (agree_param hs 0)) fun count _ =>
    h.bind (h.body 1) fun c hc => ?_
  have hc := mem_inner_of_body hc
  split
  · exact h.countDown hs hc _
  · exact h.countUp hs hc _ _

omit hs in
theorem counter (cell : CellId) : R Float (ctx.counter cell) (ctx.counter cell) := by
  refine h.bind (h.read cell) fun v _ => ?_
  split
  · exact h.pure _
  · exact h.contextFail _

section Granted

variable {budget budget' : Nat} (hb : Granted R budget budget')
include hb

theorem whileLoop (negated : Bool) {c : Command} (hc : c ∈ ctx.command.inner) :
    R Outcome (ctx.whileLoop program settle negated c budget)
      (ctx.whileLoop program settle' negated c budget') := by
  refine hb.loop rfl rfl fun _ _ ih => ?_
  refine h.bind (h.boolean (agree_param hs 0)) fun condition _ => ?_
  split
  · refine h.bind (h.pass (agree_body hs hc)) fun signal _ => ?_
    split
    · exact h.pure _
    · exact ih
  · exact h.pure _

theorem repeatWhile (negated : Bool) :
    R Outcome (ctx.repeatWhile program settle budget negated)
      (ctx.repeatWhile program settle' budget' negated) :=
  h.bind (h.body 1) fun _ hc => h.whileLoop hs hb negated (mem_inner_of_body hc)

omit hs hb in
theorem stepTarget : R String ctx.stepTarget ctx.stepTarget := by
  unfold Context.stepTarget
  dsimp only
  split
  · exact h.pure _
  · exact h.contextFail _

theorem countdownLoop {cell : CellId}
    (hw : ∀ v, R Unit (Run.write cell v) (Run.write cell v)) {c : Command}
    (hc : c ∈ ctx.command.inner) :
    R Outcome (ctx.countdownLoop settle cell c budget)
      (ctx.countdownLoop settle' cell c budget') := by
  refine hb.loop rfl rfl fun _ _ ih => ?_
  refine h.bind (h.counter cell) fun current _ => ?_
  split
  · exact h.pure _
  · refine h.bind (hw _) fun _ _ => h.bind (h.pass (agree_body hs hc)) fun signal _ => ?_
    split
    · exact h.pure _
    · exact ih

theorem countUpLoop {cell : CellId}
    (hw : ∀ v, R Unit (Run.write cell v) (Run.write cell v)) (limit : Float) {c : Command}
    (hc : c ∈ ctx.command.inner) :
    R Outcome (ctx.countUpLoop settle cell limit c budget)
      (ctx.countUpLoop settle' cell limit c budget') := by
  refine hb.loop rfl rfl fun _ _ ih => ?_
  refine h.bind (h.counter cell) fun current _ => ?_
  split
  · refine h.bind (h.pass (agree_body hs hc)) fun signal _ => ?_
    split
    · exact h.pure _
    · exact h.bind (h.counter cell) fun current _ => h.bind (hw _) fun _ _ => ih
  · exact h.pure _

theorem alwaysLoop {c : Command} (hc : c ∈ ctx.command.inner) :
    R Outcome (ctx.alwaysLoop settle c budget) (ctx.alwaysLoop settle' c budget') := by
  refine hb.loop rfl rfl fun _ _ ih => ?_
  refine h.bind (h.pass (agree_body hs hc)) fun signal _ => ?_
  split
  · exact h.pure _
  · exact ih

theorem always : R Outcome (ctx.always settle budget) (ctx.always settle' budget') :=
  h.bind (h.body 0) fun _ hc => h.alwaysLoop hs hb (mem_inner_of_body hc)

end Granted

end Agree

end Quiet

/-! ### Commands that change the state -/

namespace CongruenceIn

variable {R : (α : Type) → Run α → Run α → Prop} {program : Program} {settle settle' : Settle}
  {ctx : Context} (h : CongruenceIn R program ctx) (hs : Agree R settle settle' ctx)

open Quiet (agree_param agree_body mem_inner_of_body)

section Slot

include h

theorem slotted {β : Type} (index : Nat) {k k' : CellId → Run β}
    (hk : ∀ cell, (∀ v, R Unit (Run.write cell v) (Run.write cell v)) → R β (k cell) (k' cell)) :
    R β (ctx.cellSlot index >>= k) (ctx.cellSlot index >>= k') := by
  unfold Context.cellSlot
  split
  · exact h.resolved _ hk
  · -- the slot is misshapen, so nothing goes on
    exact h.bind (h.contextFail _) fun cell hcell => by
      obtain ⟨s, s', hcell⟩ := hcell
      cases hcell

theorem bindArguments {scope : ScopeId}
    (hbind : ∀ name source, R Unit (ctx.resolve source >>= Run.bind scope name)
      (ctx.resolve source >>= Run.bind scope name))
    (hset : ∀ name v, R Unit (Run.setIn scope name v) (Run.setIn scope name v)) :
    ∀ bs : List (String × Param),
      (∀ c ∈ bindingCommands bs, R Settled (settle ctx c) (settle' ctx c)) →
        R Unit (ctx.bindArguments program settle scope bs)
          (ctx.bindArguments program settle' scope bs)
  | [], _ => h.pure _
  | (name, p) :: bs, hb => by
    have hp : R Value (evaluate program settle ctx p) (evaluate program settle' ctx p) :=
      h.evaluate p fun c hc => hb c (List.mem_append_left _ hc)
    have hr := bindArguments hbind hset bs fun c hc => hb c (List.mem_append_right _ hc)
    refine h.bind ?_ fun _ _ => hr
    unfold Context.bindArgument
    split
    · exact hbind _ _
    · exact h.bind hp fun v _ => hset _ _

theorem setVariable (tier : Tier)
    (hs : ∀ c ∈ (ctx.param 1).commands, R Settled (settle ctx c) (settle' ctx c)) :
    R Outcome (ctx.setVariable program settle tier) (ctx.setVariable program settle' tier) :=
  h.bind (h.slotName 0) fun name _ => h.bind (h.value hs) fun v _ =>
    h.bind (h.assign tier name v) fun _ _ => h.pure _

theorem unsetVariable (tier : Tier) :
    R Outcome (ctx.unsetVariable tier) (ctx.unsetVariable tier) :=
  h.bind (h.slotName 0) fun name _ => h.bind (h.unassign tier name) fun _ _ => h.pure _

end Slot

include h hs

theorem setHere : R Outcome (ctx.setHere program settle) (ctx.setHere program settle') := by
  refine h.bind (h.slotName 0) fun name _ => ?_
  split
  · exact h.shareCell _ _
  · exact h.bind (h.value (agree_param hs 1)) fun v _ =>
      h.bind (h.assign _ _ _) fun _ _ => h.pure _

theorem call : R Outcome (ctx.call program settle) (ctx.call program settle') := by
  refine h.bind (h.labelTarget 0) fun line _ => h.inNewScope fun scope hbind hset => ?_
  have hp := agree_param hs 1
  split
  · next list hl =>
    rw [hl] at hp
    exact h.bind (h.bindArguments hbind hset list hp) fun _ _ => h.pure _
  · exact h.pure _

section Granted

variable {budget budget' : Nat} (hb : Granted R budget budget')
include hb

theorem forLoop (target : String) {c : Command} (hc : c ∈ ctx.command.inner) :
    R Outcome (ctx.forLoop program settle target c budget)
      (ctx.forLoop program settle' target c budget') := by
  refine hb.loop rfl rfl fun _ _ ih => ?_
  refine h.bind (h.boolean (agree_param hs 0)) fun condition _ => ?_
  split
  · refine h.bind (h.pass (agree_body hs hc)) fun signal _ => ?_
    split
    · exact h.pure _
    · exact h.bind (h.value (agree_param hs 1)) fun next _ =>
        h.resolved target fun _ hw => h.bind (hw next) fun _ _ => ih
  · exact h.pure _

theorem repeatFor :
    R Outcome (ctx.repeatFor program settle budget) (ctx.repeatFor program settle' budget') :=
  h.bind (h.body 2) fun _ hc => h.bind h.stepTarget fun target _ =>
    h.forLoop hs hb target (mem_inner_of_body hc)

theorem countdownWith :
    R Outcome (ctx.countdownWith settle budget) (ctx.countdownWith settle' budget') :=
  h.slotted 0 fun _ hw => h.bind (h.body 1) fun _ hc =>
    h.countdownLoop hs hb hw (mem_inner_of_body hc)

theorem countUpWith :
    R Outcome (ctx.countUpWith program settle budget) (ctx.countUpWith program settle' budget') :=
  h.slotted 0 fun _ hw => h.bind (h.number (agree_param hs 1)) fun _ _ =>
    h.bind (h.body 2) fun _ hc => h.countUpLoop hs hb hw _ (mem_inner_of_body hc)

end Granted

/-! ### Executing -/

theorem perform {budget budget' : Nat} (type : CommandType)
    (hopen : type.behaviour.isOpenEnded = true → Granted R budget budget')
    (htarget : type.behaviour.isTargeted = true → Targets R program ctx)
    (hhost : ∀ action, type.behaviour = .host action →
      R Outcome (ctx.act program settle type.signature action)
        (ctx.act program settle' type.signature action)) :
    R Outcome (perform program settle budget ctx type)
      (perform program settle' budget' ctx type) := by
  obtain ⟨signature, behaviour⟩ := type
  cases behaviour with
  | endAll | goBack => exact h.pure _
  | goTo => exact h.goTo
  | call => exact h.call hs
  | branch negated => exact h.branch negated (agree_param hs 0)
  | strayElse | forEach => exact h.contextFail _
  | returnValue | returnAll => exact h.sendValue hs _
  | repeatWhile negated => exact h.repeatWhile hs (hopen rfl) negated
  | repeatFor => exact h.repeatFor hs (hopen rfl)
  | counted descending => exact h.counted hs descending
  | countdownWith => exact h.countdownWith hs (hopen rfl)
  | countUpWith => exact h.countUpWith hs (hopen rfl)
  | always => exact h.always hs (hopen rfl)
  | set tier => exact h.setVariable tier (agree_param hs 1)
  | setHere => exact h.setHere hs
  | unset tier => exact h.unsetVariable tier
  | setFor tier => exact h.setFor hs (htarget rfl) tier
  | unsetFor tier => exact h.unsetFor hs (htarget rfl) tier
  | host action => exact hhost action rfl

end CongruenceIn

/-! ### Commands of a host -/

namespace Congruence

variable {R : (α : Type) → Run α → Run α → Prop} {program : Program} {settle settle' : Settle}
  {ctx : Context} (h : Congruence program.registry R) (signature : Signature)
include h

/-- **What a context answers.** One case for each service. -/
theorem answer (hs : Agree R settle settle' ctx) (service : Service) :
    R service.Answer (ctx.answer program settle signature service)
      (ctx.answer program settle' signature service) := by
  have hp := fun index => Quiet.agree_param hs index
  cases service with
  | site | directory | lineOf label | lineParam index => exact h.pure _
  | evaluate index path =>
    exact h.evaluate _ fun c hc => hp index c (Param.mem_commands_of_mem_part hc)
  | number index => exact h.number (hp index)
  | text index => exact h.text (hp index)
  | boolean index => exact h.boolean (hp index)
  | collection index => exact h.collection (hp index)
  | name index => exact h.slotName index
  | labelTarget index => exact h.labelTarget index
  | cell index => exact h.cellSlot index
  | run index => exact h.runCommand (hp index)
  | lookUp name => exact h.lookUp ctx name
  | assign tier name v id => exact (h.targets ctx tier name id).1 v
  | unassign tier name id => exact (h.targets ctx tier name id).2
  | stores => exact h.stores
  | read cell => exact h.read cell
  | write cell v => exact h.write cell v
  | newScope => exact h.newScope
  | contents | cellIn => exact h.bind h.memory fun _ _ => h.pure _
  | bind scope name cell => exact h.bindName scope name cell
  | setIn scope name v => exact h.setIn scope name v
  | note entry => exact h.note entry
  | logged => exact h.bind h.log fun _ _ => h.pure _

/-- **Carrying out a program of a host**, by induction on the program. -/
theorem carryOut (hs : Agree R settle settle' ctx) {α : Type} {p : HostProgram α}
    (hp : p.PassesErrorsOn ∨ Catching R) :
    R α (ctx.carryOut program settle signature p) (ctx.carryOut program settle' signature p) := by
  have hanswer : ∀ index service, R service.Answer
      ((ctx.rebound index).answer program settle signature service)
      ((ctx.rebound index).answer program settle' signature service) := fun _ =>
    h.answer signature fun i => hs i
  induction p with
  | done a => exact h.pure a
  | fail f => exact h.raise f
  | ask index service next ih =>
    rcases hp with hp | hcatch
    · cases hp with
      | ask hok hfault =>
        rw [Context.carryOut_ask_of_passesErrorsOn _ _ _ _ hfault,
          Context.carryOut_ask_of_passesErrorsOn _ _ _ _ hfault]
        exact h.bind (hanswer index service) fun answer _ => ih _ (.inl (hok answer))
    · exact h.bind (hcatch (hanswer index service)) fun answer _ => ih _ (.inr hcatch)

theorem act (hs : Agree R settle settle' ctx) {name : String} {type : CommandType}
    (htype : program.registry.get? name = some type) {action : HostAction}
    (haction : type.behaviour = .host action) :
    R Outcome (ctx.act program settle signature action)
      (ctx.act program settle' signature action) := by
  refine h.bind (h.carryOut signature hs (h.hosts.imp_left fun hpass => ?_)) fun _ _ => h.pure _
  have hbehaviour := hpass name type htype
  rw [haction] at hbehaviour
  exact hbehaviour

end Congruence

section Execute

variable {R : (α : Type) → Run α → Run α → Prop} {program : Program} {settle settle' : Settle}
  {ctx : Context} {budget budget' : Nat} {c : Command}
  (hs : Agree R settle settle' (ctx.child c))
  (hopen : ∀ type, program.registry.get? c.name = some type →
    type.behaviour.isOpenEnded = true → Granted R budget budget')
include hs hopen

/-- **Executing a command respects a relation** that holds of what commands do in its context. -/
theorem CongruenceIn.execute (h : CongruenceIn R program (ctx.child c))
    (htarget : ∀ type, program.registry.get? c.name = some type →
      type.behaviour.isTargeted = true → Targets R program (ctx.child c))
    (hhost : ∀ type, program.registry.get? c.name = some type →
      ∀ action, type.behaviour = .host action →
        R Outcome ((ctx.child c).act program settle type.signature action)
          ((ctx.child c).act program settle' type.signature action)) :
    R Outcome (execute program settle budget ctx c) (execute program settle' budget' ctx c) := by
  unfold StageScript.execute
  split
  · next type htype =>
    exact h.perform hs type (hopen type htype) (htarget type htype) (hhost type htype)
  · exact h.fail _ rfl

/-- **Executing a command respects a congruence.** -/
theorem Congruence.execute (h : Congruence program.registry R) :
    R Outcome (execute program settle budget ctx c) (execute program settle' budget' ctx c) :=
  (h.inContext _).execute hs hopen (fun _ _ _ => h.targets _) fun type htype _ haction =>
    h.act type.signature hs htype haction

end Execute

end StageScript
