import StageScript.Proofs.Command.Supply
import StageScript.Proofs.Engine.Typed

/-!
# Runs keep collections typed

A run reads slots, sets variables, jumps and loops. Each of these keeps cells typed and hands on
typed values, if settling a command does; there is one lemma for each, in the order of the engine,
up to `Context.keeps_perform` and `execute_keeps`. A command of a host does so if the values it
supplies are built from typed ones (`Context.keeps_act`). By induction on the fuel so does settling
itself (`settle_keeps`), and with it a whole run, if the host binds typed values
(`runWithin_keeps`).
-/

namespace StageScript

open Run

/-! ### Values in results -/

theorem Exit.typed_iff {how : Exit} : how.Typed ↔ ∀ v ∈ how.values, v.Typed := by
  cases how <;> simp [Exit.Typed, Exit.values]

theorem Signal.typed_iff {s : Signal} : s.Typed ↔ ∀ v ∈ s.values, v.Typed := by
  cases s <;> simp [Signal.Typed, Signal.values, Exit.typed_iff]

theorem Settled.typed_iff {settled : Settled} : settled.Typed ↔ ∀ v ∈ settled.values, v.Typed := by
  cases settled <;> simp [Settled.Typed, Settled.values, Signal.typed_iff]

/-- **What commands of a host supply is built from typed values.** -/
def Registry.SuppliesTyped (registry : Registry) : Prop :=
  ∃ given : List Value, (∀ v ∈ given, v.Typed) ∧ registry.SuppliesBuilt given

namespace Context

variable {program : Program} {settle : Settle} {ctx : Context} {registry : Registry}

/-! ### Slots -/

theorem keeps_assignFor (tier : Tier) (name : String) {v : Value} (hv : v.Typed) (id : String) :
    (ctx.assignFor program tier name v id).Keeps program.registry fun _ => True :=
  (keeps_assign hv tier ctx.scope id name).atLine ctx.line

theorem keeps_name (index : Nat) : (ctx.name index).Keeps registry fun _ => True :=
  (keeps_quiet registry).slotName index

theorem keeps_cellSlot (index : Nat) : (ctx.cellSlot index).Keeps registry fun _ => True := by
  unfold cellSlot
  split
  · exact keeps_resolve _
  · exact keeps_fail _

theorem keeps_labelTarget (index : Nat) :
    (ctx.labelTarget program index).Keeps registry fun _ => True :=
  (keeps_quiet registry).labelTarget index

theorem keeps_counter (cell : CellId) : (ctx.counter cell).Keeps registry fun _ => True :=
  (keeps_quiet registry).counter cell

/-- A run with nothing to hand back. -/
theorem keeps_unit : (pure .unit : Run Outcome).Keeps registry Outcome.Typed :=
  keeps_pure Value.Typed.unit

section Plain

variable (hc : ctx.command.Plain)
include hc

theorem keeps_body (index : Nat) : (ctx.body index).Keeps registry Command.Plain := by
  have hbody : (ctx.body index).Keeps registry fun _ => True := (keeps_quiet registry).body index
  exact hbody.of_returns fun c hret => hc.inner (Quiet.mem_inner_of_body hret)

variable (hs : ∀ ctx c, c.Plain → (settle ctx c).Keeps program.registry Settled.Typed)
include hs

theorem keeps_value (index : Nat) :
    (ctx.value program settle index).Keeps program.registry Value.Typed :=
  keeps_evaluate (hs ctx) (hc.param index)

/-- What is read from the slots, apart from values, leaves cells typed. -/
theorem agree_typed :
    Agree (StaysTyped program.registry) settle settle ctx :=
  fun index c hmem => (hs { ctx with loopIndex := index } c (hc.inner hmem)).mono fun _ _ => trivial

theorem keeps_number (index : Nat) :
    (ctx.number program settle index).Keeps program.registry fun _ => True :=
  (keeps_quiet program.registry).number (Quiet.agree_param (agree_typed hc hs) index)

theorem keeps_text (index : Nat) :
    (ctx.text program settle index).Keeps program.registry fun _ => True :=
  (keeps_quiet program.registry).text (Quiet.agree_param (agree_typed hc hs) index)

theorem keeps_boolean (index : Nat) :
    (ctx.boolean program settle index).Keeps program.registry fun _ => True :=
  (keeps_quiet program.registry).boolean (Quiet.agree_param (agree_typed hc hs) index)

theorem keeps_collection (index : Nat) :
    (ctx.collection program settle index).Keeps program.registry fun c => c.toValue.Typed := by
  refine (keeps_value hc hs index).bind fun v hv => ?_
  cases v with
  | collection element items => exact keeps_pure hv
  | _ => exact keeps_fail _

theorem keeps_targetIds : (ctx.targetIds program settle).Keeps program.registry fun _ => True :=
  (keeps_quiet program.registry).targetIds (agree_typed hc hs)

theorem keeps_runCommand (index : Nat) :
    (ctx.runCommand settle index).Keeps program.registry Settled.Typed := by
  unfold runCommand
  split
  · next c hcommand =>
    exact hs ctx c (hc.inner (Command.mem_inner_of_command? (congrArg Param.command? hcommand)))
  · exact keeps_pure Value.Typed.unit
  · exact keeps_fail _

/-! ### Setting and removing -/

theorem keeps_setVariable (tier : Tier) :
    (ctx.setVariable program settle tier).Keeps program.registry Outcome.Typed :=
  (keeps_name 0).bind fun name _ => (keeps_value hc hs 1).bind fun _ hv =>
    (keeps_assignFor tier name hv _).bind fun _ _ => keeps_unit

omit hc hs in
theorem keeps_shareCell (name source : String) :
    (ctx.shareCell program name source).Keeps program.registry Outcome.Typed := by
  have hmemory : Run.memory.Keeps program.registry fun _ => True :=
    (keeps_quiet program.registry).memory
  refine (keeps_resolve source).bind fun cell _ => hmemory.bind fun memory _ => ?_
  dsimp only
  split
  · exact (keeps_assignFor .temp name .unit _).bind fun _ _ =>
      (keeps_bindName _ _ _).bind fun _ _ => keeps_unit
  · exact (keeps_bindName _ _ _).bind fun _ _ => keeps_unit

theorem keeps_setHere : (ctx.setHere program settle).Keeps program.registry Outcome.Typed := by
  refine (keeps_name 0).bind fun name _ => ?_
  split
  · exact keeps_shareCell name _
  · exact (keeps_value hc hs 1).bind fun _ hv =>
      (keeps_assignFor .temp name hv _).bind fun _ _ => keeps_unit

omit hc hs in
theorem keeps_unsetVariable (tier : Tier) :
    (ctx.unsetVariable tier).Keeps program.registry Outcome.Typed :=
  (keeps_name 0).bind fun _ _ => (keeps_unassign _ _ _ _).bind fun _ _ => keeps_unit

theorem keeps_setFor (tier : Tier) :
    (ctx.setFor program settle tier).Keeps program.registry Outcome.Typed := by
  refine (keeps_targetIds hc hs).bind fun ids _ => (keeps_name 1).bind fun name _ =>
    (keeps_value hc hs 2).bind fun v hv => ?_
  have hall : (ids.forM fun id => ctx.assignFor program tier name v id).Keeps program.registry
      fun _ => True := (keeps_quiet program.registry).forM (keeps_assignFor tier name hv) ids
  exact hall.bind fun _ _ => keeps_unit

theorem keeps_unsetFor (tier : Tier) :
    (ctx.unsetFor program settle tier).Keeps program.registry Outcome.Typed := by
  refine (keeps_targetIds hc hs).bind fun ids _ => (keeps_name 1).bind fun name _ => ?_
  have hall : (ids.forM fun id => ctx.unassignFor tier name id).Keeps program.registry
      fun _ => True :=
    (keeps_quiet program.registry).forM (fun id => keeps_unassign tier ctx.scope id name) ids
  exact hall.bind fun _ _ => keeps_unit

/-! ### Jumps and branches -/

omit hc in
theorem keeps_bindArguments (scope : ScopeId) {list : List (String × Param)}
    (hlist : ∀ b ∈ list, b.2.Plain) :
    (ctx.bindArguments program settle scope list).Keeps program.registry fun _ => True := by
  induction list with
  | nil => exact keeps_pure trivial
  | cons b list ih =>
    have hbinding : (ctx.bindArgument program settle scope b).Keeps program.registry
        fun _ => True := by
      unfold bindArgument
      split
      · exact (keeps_resolve _).bind fun cell _ => keeps_bindName scope b.1 cell
      · exact (keeps_evaluate (hs ctx) (hlist b List.mem_cons_self)).bind fun v hv =>
          keeps_setIn hv scope b.1
    exact hbinding.bind fun _ _ => ih fun b hb => hlist b (List.mem_cons_of_mem _ hb)

theorem keeps_call : (ctx.call program settle).Keeps program.registry Outcome.Typed := by
  refine (keeps_labelTarget 0).bind fun line _ => keeps_newScope.bind fun scope _ => ?_
  have hjump : (pure (.jump ⟨.call, line, scope⟩) : Run Outcome).Keeps program.registry
      Outcome.Typed := keeps_pure trivial
  dsimp only
  split
  · next list hlist =>
    have hplain := hc.param 1
    rw [show ctx.command.param 1 = .bindings list from hlist] at hplain
    cases hplain with
    | bindings h => exact (keeps_bindArguments hs scope h).bind fun _ _ => hjump
  · exact hjump

theorem keeps_branch (negated : Bool) :
    (ctx.branch program settle negated).Keeps program.registry Outcome.Typed := by
  refine (keeps_boolean hc hs 0).bind fun condition _ => ?_
  split
  · next c hcommand => exact keeps_pure (hc.inner (Command.mem_inner_of_command? hcommand))
  · exact keeps_unit

theorem keeps_sendValue {signal : Value → Signal} (h : ∀ v, v.Typed → (signal v).Typed) :
    (ctx.sendValue program settle signal).Keeps program.registry Outcome.Typed :=
  (keeps_value hc hs 0).bind fun v hv => keeps_pure (h v hv)

/-! ### Loops -/

omit hc in
theorem keeps_pass {body : Command} (hbody : body.Plain) :
    (pass settle ctx body).Keeps program.registry fun signal => ∀ s ∈ signal, s.Typed := by
  refine (hs ctx body hbody).bind fun settled hsettled => ?_
  cases settled with
  | value v => exact keeps_pure (by simp)
  | signal s => exact keeps_pure (forall_mem_some hsettled)

omit hc in
/-- **One pass of a loop**: a signal of the body ends the loop, or else it goes on. -/
theorem keeps_pass_bind {body : Command} (hbody : body.Plain) {next : Run Outcome}
    (hnext : next.Keeps program.registry Outcome.Typed) :
    (do match ← pass settle ctx body with
        | some s => return .signal s
        | none => next : Run Outcome).Keeps program.registry Outcome.Typed := by
  refine (keeps_pass hs hbody).bind fun signal hsignal => ?_
  cases signal with
  | some s => exact keeps_pure (hsignal s rfl)
  | none => exact hnext

section Body

variable {body : Command} (hbody : body.Plain)
include hbody

theorem keeps_whileLoop (negated : Bool) (budget : Nat) :
    (ctx.whileLoop program settle negated body budget).Keeps program.registry Outcome.Typed := by
  induction budget with
  | zero => exact keeps_stop _
  | succ budget ih =>
    refine (keeps_boolean hc hs 0).bind fun condition _ => ?_
    split
    · exact keeps_pass_bind hs hbody ih
    · exact keeps_unit

theorem keeps_forLoop (target : String) (budget : Nat) :
    (ctx.forLoop program settle target body budget).Keeps program.registry Outcome.Typed := by
  induction budget with
  | zero => exact keeps_stop _
  | succ budget ih =>
    refine (keeps_boolean hc hs 0).bind fun condition _ => ?_
    split
    · exact keeps_pass_bind hs hbody ((keeps_value hc hs 1).bind fun next hnext =>
        (keeps_resolve target).bind fun cell _ => (keeps_write hnext cell).bind fun _ _ => ih)
    · exact keeps_unit

omit hc

theorem keeps_countDown (count : Nat) :
    (ctx.countDown settle body count).Keeps program.registry Outcome.Typed := by
  induction count with
  | zero => exact keeps_unit
  | succ count ih => exact keeps_pass_bind hs hbody ih

theorem keeps_countUp (count index : Nat) :
    (ctx.countUp settle body count index).Keeps program.registry Outcome.Typed := by
  induction count generalizing index with
  | zero => exact keeps_unit
  | succ count ih => exact keeps_pass_bind hs hbody (ih _)

theorem keeps_countdownLoop (cell : CellId) (budget : Nat) :
    (ctx.countdownLoop settle cell body budget).Keeps program.registry Outcome.Typed := by
  induction budget with
  | zero => exact keeps_stop _
  | succ budget ih =>
    refine (keeps_counter cell).bind fun current _ => ?_
    split
    · exact keeps_unit
    · exact (keeps_write (.ofFloat _) cell).bind fun _ _ => keeps_pass_bind hs hbody ih

theorem keeps_countUpLoop (cell : CellId) (limit : Float) (budget : Nat) :
    (ctx.countUpLoop settle cell limit body budget).Keeps program.registry Outcome.Typed := by
  induction budget with
  | zero => exact keeps_stop _
  | succ budget ih =>
    refine (keeps_counter cell).bind fun current _ => ?_
    split
    · exact keeps_pass_bind hs hbody ((keeps_counter cell).bind fun _ _ =>
        (keeps_write (.ofFloat _) cell).bind fun _ _ => ih)
    · exact keeps_unit

theorem keeps_alwaysLoop (budget : Nat) :
    (ctx.alwaysLoop settle body budget).Keeps program.registry Outcome.Typed := by
  induction budget with
  | zero => exact keeps_stop _
  | succ budget ih => exact keeps_pass_bind hs hbody ih

end Body

theorem keeps_counted (descending : Bool) :
    (ctx.counted program settle descending).Keeps program.registry Outcome.Typed := by
  refine (keeps_number hc hs 0).bind fun count _ => (keeps_body hc 1).bind fun body hbody => ?_
  split
  · exact keeps_countDown hs hbody _
  · exact keeps_countUp hs hbody _ _

/-! ### Commands of a host -/

omit hc hs in
theorem keeps_contents (scope : ScopeId) :
    (do return (← Run.memory).contents scope : Run (List (String × Value))).Keeps registry
      fun names => ∀ v ∈ names.map (·.2), v.Typed := by
  refine keeps_of_same (fun s => rfl) fun s hs names t hnames v hv => ?_
  cases hnames
  obtain ⟨_, hentry, rfl⟩ := List.mem_map.mp hv
  obtain ⟨entry, -, rfl⟩ := List.mem_map.mp hentry
  exact hs _

/-- **What a context answers.** One case for each service. -/
theorem keeps_answer (signature : Signature) (service : Service)
    (htakes : ∀ v ∈ service.takes, v.Typed) :
    (ctx.answer program settle signature service).Keeps program.registry
      fun answer => ∀ v ∈ service.gives answer, v.Typed := by
  have hnone : ∀ {α : Type} {m : Run α}, (m.Keeps program.registry fun _ => True) →
      m.Keeps program.registry fun _ => ∀ v ∈ ([] : List Value), v.Typed := fun hm =>
    hm.mono fun _ _ => List.forall_mem_nil _
  have hone : ∀ {v : Value}, v.Typed → ∀ w ∈ [v], w.Typed := fun hv =>
    List.forall_mem_singleton.mpr hv
  cases service with
  | site | directory | lineOf label | lineParam index => exact hnone (keeps_pure trivial)
  | evaluate index path =>
    exact (keeps_evaluate (hs ctx) ((hc.param index).part path)).mono fun _ => hone
  | number index => exact hnone (keeps_number hc hs index)
  | text index => exact hnone (keeps_text hc hs index)
  | boolean index => exact hnone (keeps_boolean hc hs index)
  | collection index => exact (keeps_collection hc hs index).mono fun _ => hone
  | name index => exact hnone (keeps_name index)
  | labelTarget index => exact hnone (keeps_labelTarget index)
  | cell index => exact hnone (keeps_cellSlot index)
  | run index => exact (keeps_runCommand hc hs index).mono fun _ => Settled.typed_iff.mp
  | lookUp name => exact hnone ((keeps_quiet program.registry).lookUp ctx name)
  | assign tier name v id =>
    exact hnone (keeps_assignFor tier name (htakes v (List.mem_singleton_self v)) id)
  | unassign tier name id => exact hnone (keeps_unassign tier ctx.scope id name)
  | stores | cellIn | logged =>
    exact hnone (keeps_of_same (fun _ => rfl) fun _ _ _ _ _ => trivial)
  | read cell => exact (keeps_read cell).mono fun _ => hone
  | write cell v => exact hnone (keeps_write (htakes v (List.mem_singleton_self v)) cell)
  | newScope => exact hnone keeps_newScope
  | contents scope => exact keeps_contents scope
  | bind scope name cell => exact hnone (keeps_bindName scope name cell)
  | setIn scope name v =>
    exact hnone (keeps_setIn (htakes v (List.mem_singleton_self v)) scope name)
  | note entry => exact hnone (keeps_note entry)

/-- **Carrying out a command of a host**, by induction on what it supplies: a service is handed
typed values, so it answers with typed ones. -/
theorem keeps_carryOut (signature : Signature) {given : List Value} {action : HostAction}
    (haction : action.SuppliesBuilt given) (hgiven : ∀ v ∈ given, v.Typed) :
    (ctx.carryOut program settle signature action).Keeps program.registry
      fun reply => ∀ v ∈ reply.values, v.Typed := by
  induction haction with
  | done hreply => exact keeps_pure fun v hv => (hreply v hv).typed_of hgiven
  | fail f => exact keeps_stop _
  | @ask given index service next htakes _ _ ihok ihfault =>
    have hchild : (ctx.rebound index).command.Plain := hc
    have hanswer := keeps_answer hchild hs signature service fun v hv =>
      (htakes v hv).typed_of hgiven
    refine hanswer.attempt.bind fun answer htyped => ?_
    cases answer with
    | ok answer =>
      exact ihok answer fun v hv =>
        (List.mem_append.mp hv).elim (htyped answer rfl v) (hgiven v)
    | error f => exact ihfault f hgiven

/-- **A command of a host that supplies built values keeps cells typed.** -/
theorem keeps_act (signature : Signature) {given : List Value} {action : HostAction}
    (haction : action.SuppliesBuilt given) (hgiven : ∀ v ∈ given, v.Typed) :
    (ctx.act program settle signature action).Keeps program.registry Outcome.Typed := by
  refine (keeps_carryOut hc hs signature haction hgiven).bind fun reply hreply =>
    keeps_pure ?_
  cases reply with
  | value v => exact hreply v (List.mem_singleton_self v)
  | signal s => exact Signal.typed_iff.mpr hreply
  | jump kind line scope => trivial
  | tailCall index =>
    simp only [outcome]
    cases hcommand : (ctx.param index).command? with
    | some c => exact hc.inner (Command.mem_inner_of_command? hcommand)
    | none => exact Value.Typed.unit

/-! ### Behaviours -/

/-- **Performing a command.** One case for each behaviour. -/
theorem keeps_perform (hhosts : program.registry.SuppliesTyped) (budget : Nat) {name : String}
    {type : CommandType} (htype : program.registry.get? name = some type) :
    (perform program settle budget ctx type).Keeps program.registry Outcome.Typed := by
  obtain ⟨signature, behaviour⟩ := type
  cases behaviour with
  | endAll | goBack => exact keeps_pure trivial
  | strayElse | forEach => exact keeps_fail _
  | goTo => exact (keeps_labelTarget 0).bind fun line _ => keeps_pure trivial
  | call => exact keeps_call hc hs
  | branch negated => exact keeps_branch hc hs negated
  | returnValue | returnAll => exact keeps_sendValue hc hs fun v hv => hv
  | repeatWhile negated =>
    exact (keeps_body hc 1).bind fun body hbody => keeps_whileLoop hc hs hbody negated budget
  | repeatFor =>
    have htarget : ctx.stepTarget.Keeps program.registry fun _ => True :=
      (keeps_quiet program.registry).stepTarget
    exact (keeps_body hc 2).bind fun body hbody => htarget.bind fun target _ =>
      keeps_forLoop hc hs hbody target budget
  | counted descending => exact keeps_counted hc hs descending
  | countdownWith =>
    exact (keeps_cellSlot 0).bind fun cell _ => (keeps_body hc 1).bind fun body hbody =>
      keeps_countdownLoop hs hbody cell budget
  | countUpWith =>
    exact (keeps_cellSlot 0).bind fun cell _ => (keeps_number hc hs 1).bind fun limit _ =>
      (keeps_body hc 2).bind fun body hbody => keeps_countUpLoop hs hbody cell limit.float budget
  | always => exact (keeps_body hc 0).bind fun body hbody => keeps_alwaysLoop hs hbody budget
  | set tier => exact keeps_setVariable hc hs tier
  | setHere => exact keeps_setHere hc hs
  | unset tier => exact keeps_unsetVariable tier
  | setFor tier => exact keeps_setFor hc hs tier
  | unsetFor tier => exact keeps_unsetFor hc hs tier
  | host action =>
    obtain ⟨given, hgiven, hbuilt⟩ := hhosts
    exact keeps_act hc hs signature (hbuilt name _ action htype rfl) hgiven

end Plain

end Context

/-! ### Settling -/

/-- **A program whose script has no collection among its literals.** -/
def Program.IsPlain (program : Program) : Prop :=
  ∀ number c, program.script.commandAt? number = some c → c.Plain

section Settle

variable {program : Program} {settle : Settle} (hhosts : program.registry.SuppliesTyped)
  (hs : ∀ ctx c, c.Plain → (settle ctx c).Keeps program.registry Settled.Typed)
include hs

include hhosts in
theorem execute_keeps {c : Command} (hc : c.Plain) (budget : Nat) (ctx : Context) :
    (execute program settle budget ctx c).Keeps program.registry Outcome.Typed := by
  unfold execute
  split
  · next type htype =>
    have hchild : (ctx.child c).command.Plain := hc
    exact Context.keeps_perform hchild hs hhosts budget htype
  · exact Context.keeps_fail _

omit hs in
theorem receive_keeps (frame : Frame) (line : Nat) {signal : Signal} (h : signal.Typed) :
    (frame.receive line signal).Keeps program.registry Exit.Typed := by
  cases signal with
  | endAll => exact keeps_pure trivial
  | returnValue v | returnAll v | exit how => exact keeps_pure h
  | goBack =>
    simp only [Frame.receive]
    split
    · exact keeps_pure trivial
    · exact keeps_stop _

variable (hp : program.IsPlain)
include hp

theorem runLines_keeps (frame : Frame) (remaining line : Nat) {last : Option Value}
    (hlast : ∀ v ∈ last, v.Typed) :
    (frame.runLines program settle remaining line last).Keeps program.registry Exit.Typed := by
  induction remaining generalizing line last with
  | zero => exact keeps_pure hlast
  | succ remaining ih =>
    unfold Frame.runLines
    split
    · exact ih _ hlast
    · next c hline =>
      refine ((hs _ c (hp line c hline)).atLine line).bind fun settled hsettled => ?_
      cases settled with
      | value v =>
        refine ih _ ?_
        split
        · exact hlast
        · exact forall_mem_some hsettled
      | signal s => exact receive_keeps frame line hsettled

theorem frameRun_keeps (frame : Frame) (start : Nat) :
    (frame.run program settle start).Keeps program.registry Exit.Typed := by
  unfold Frame.run
  split
  · exact keeps_stop _
  · exact runLines_keeps hs hp frame _ _ (by simp)

theorem follow_keeps (ctx : Context) (jump : Jump) :
    (follow program settle ctx jump).Keeps program.registry Outcome.Typed := by
  refine (frameRun_keeps hs hp _ _).bind fun how hhow => keeps_pure ?_
  cases hkind : jump.kind <;> cases how <;>
    first | exact hhow | exact Value.Typed.unit

include hhosts in
/-- Tail calls and jumps are followed to a result. -/
theorem ultimate_keeps (budget : Nat) (ctx : Context) (left : Nat) {outcome : Outcome}
    (ho : outcome.Typed) :
    (ultimate program settle budget ctx left outcome).Keeps program.registry Settled.Typed := by
  induction left generalizing outcome with
  | zero =>
    cases outcome with
    | value v | signal s => exact keeps_pure ho
    | tailCall c | jump j => exact Context.keeps_fail _
  | succ left ih =>
    cases outcome with
    | value v | signal s => exact keeps_pure ho
    | tailCall c => exact (execute_keeps hhosts hs ho budget ctx).bind fun _ h => ih h
    | jump j => exact (follow_keeps hs hp ctx j).bind fun _ h => ih h

end Settle

section Program

variable {program : Program} (hp : program.IsPlain) (hhosts : program.registry.SuppliesTyped)
include hp hhosts

/-- **Settling a command keeps cells typed and gives a typed result**, by induction on the fuel. -/
theorem settle_keeps (fuel : Nat) (ctx : Context) (c : Command) (hc : c.Plain) :
    (settle program fuel ctx c).Keeps program.registry Settled.Typed := by
  induction fuel generalizing ctx c with
  | zero => exact keeps_stop _
  | succ fuel ih =>
    exact (execute_keeps hhosts ih hc fuel ctx).bind fun _ ho =>
      ultimate_keeps hhosts ih hp fuel ctx _ ho

theorem evaluate_keeps (fuel : Nat) (ctx : Context) {p : Param} (h : p.Plain) :
    (evaluate program (settle program fuel) ctx p).Keeps program.registry Value.Typed :=
  Context.keeps_evaluate (fun c hc => settle_keeps hp hhosts fuel ctx c hc) h

omit hp hhosts in
theorem bindHostNames_keeps (scope : ScopeId) (actor : Character) {bindings : List (String × Value)}
    (hb : ∀ b ∈ bindings, b.2.Typed) :
    (program.bindHostNames scope actor bindings).Keeps program.registry fun _ => True := by
  induction bindings with
  | nil => exact keeps_pure trivial
  | cons b bindings ih =>
    exact (keeps_assign (hb b List.mem_cons_self) _ _ _ _).bind fun _ _ =>
      ih fun b h => hb b (List.mem_cons_of_mem _ h)

/-- **A run keeps cells typed and gives a typed result**, if the host binds typed values. -/
theorem runWithin_keeps (fuel : Nat) {request : Request}
    (hb : ∀ b ∈ request.bindings.entries, b.2.Typed) :
    (program.runWithin fuel request).Keeps program.registry fun v => ∀ w ∈ v, w.Typed := by
  refine keeps_newScope.bind fun scope _ => (bindHostNames_keeps scope _ hb).bind fun _ _ =>
    (frameRun_keeps (settle_keeps hp hhosts fuel) hp _ _).bind fun how hhow => keeps_pure ?_
  cases how with
  | ended | wentBack => simp [Program.result]
  | returned v | returnedAll v =>
    simp only [Program.result]
    split
    · simp
    · exact forall_mem_some hhow
  | completed last => exact hhow

end Program

end StageScript
