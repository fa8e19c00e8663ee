import StageScript.Proofs.Engine.Shared
import StageScript.Proofs.Grammar.Extension

/-!
# Running with one more command

A script that was compiled with the commands of the language runs in the same way with one more
command, if the sources lack its name and so do the names that a host binds
(`register_conservative`).

While a script runs, the registry is asked for two things only: what the command of a line does, and
whether the name of a variable that is made is that of a command. The commands of the script are in
the old registry (`Registry.Knows`). The names that they set are written in the slots of the
commands, and since the script compiles with the new registry, too, they are free in it.
-/

namespace StageScript

/-- A program over another registry. -/
def Program.withRegistry (program : Program) (registry : Registry) : Program :=
  { program with registry }

/-- **A registry knows a command** as one that, with more commands, still has what its behaviour
needs. -/
def Registry.Knows (registry registry' : Registry) (c : Command) : Prop :=
  ∃ type, registry.get? c.name = some type ∧ type.behaviour.Served registry' c

section Knows

variable {registry registry' : Registry} {name : String}
  (h : registry.Extends registry' name)

include h

theorem Registry.Extends.knows (hk : registry.Keyed) (hk' : registry'.Keyed)
    (hl : registry.OfLanguage) {c : Command} {line : Nat} (hc : c.WellFormed registry line)
    (hc' : c.WellFormed registry' line) : registry.Knows registry' c := by
  obtain ⟨key, signature, hkey, hname, -⟩ := hc.signed
  obtain ⟨key', signature', hkey', hname', -, hwritten⟩ := hc'.signed
  obtain rfl := hk key signature hkey
  obtain rfl := hk' key' signature' hkey'
  obtain ⟨type, htype, rfl⟩ := Option.map_eq_some_iff.mp hkey
  have hmem := hl _ type htype
  -- both registries have the command under its name
  have hsame : signature' = type.signature := by
    rw [← hname', hname, h.signature?_of_some hkey] at hkey'
    exact (Option.some.inj hkey').symm
  subst hsame
  have hform : type.signature.Written registry' line c.params := by
    rcases hwritten with hwritten | hredirected
    · exact hwritten
    · exact hredirected.written hmem
  exact ⟨type, by rw [hname]; exact htype, hform.served hmem⟩

/-! ### Setting variables -/

theorem Registry.Extends.assign_eq {key : String} (hkey : key ≠ name) (tier : Tier)
    (scope : ScopeId) (id : String) (v : Value) :
    Run.assign registry' tier scope id key v = Run.assign registry tier scope id key v := by
  simp only [Run.assign, State.assign, State.refusal?, h.hasCommand_eq hkey]

end Knows

/-- Two runs are the same. -/
def Identical (α : Type) (m m' : Run α) : Prop := m = m'

theorem Identical.congruence (registry : Registry) : Congruence registry Identical where
  pure _ := rfl
  fail _ _ := rfl
  raise _ := rfl
  hosts := .inr fun hm => by
    cases hm
    rfl
  log := rfl
  stores := rfl
  bind hm hf := by
    cases hm
    exact Run.bind_congr hf
  atLine line hm := by
    cases hm
    rfl
  memory := rfl
  lookUp _ _ := rfl
  operate ctx place left _ _ hr := congrArg (ctx.operate place left) hr
  write _ _ := rfl
  bindName _ _ _ := rfl
  setIn _ _ _ := rfl
  newScope := rfl
  note _ := rfl
  assign _ _ _ _ _ := rfl
  unassign _ _ _ _ := rfl

section Program

variable {program : Program} {registry' : Registry} {name : String}
  (h : program.registry.Extends registry' name)
include h

/-! ### Executing -/

theorem assignFor_withRegistry {key : String} (hkey : key ≠ name) (ctx : Context) (tier : Tier)
    (v : Value) (id : String) :
    ctx.assignFor (program.withRegistry registry') tier key v id =
      ctx.assignFor program tier key v id :=
  congrArg (·.atLine ctx.line) (h.assign_eq hkey tier ctx.scope id v)

/-- **A known command is executed in the same way with one more command.** -/
theorem execute_withRegistry {c : Command} (hc : program.registry.Knows registry' c)
    (settle : Settle) (budget : Nat) (ctx : Context) :
    execute (program.withRegistry registry') settle budget ctx c =
      execute program settle budget ctx c := by
  obtain ⟨type, htype, hserved⟩ := hc
  have hscript : (program.withRegistry registry').script = program.script := rfl
  have htype' : (program.withRegistry registry').registry.get? c.name = some type :=
    h.get?_of_some htype
  unfold execute
  rw [htype, htype']
  refine perform_of_shared settle hscript rfl budget _ type fun key hkey => ?_
  rcases hkey with hhost | ⟨i, hi, hreturns⟩
  · rw [hserved.ofLanguage] at hhost
    cases hhost
  · obtain ⟨written, hparam, hfree⟩ := hserved.name i hi
    obtain ⟨s, s', hname⟩ := hreturns
    have hkey : key = written := by
      unfold Context.name Context.param Context.child at hname
      rw [hparam] at hname
      cases hname
      rfl
    exact assignFor_withRegistry h (hkey ▸ h.ne_of_isFree hfree) _

/-! ### Settling -/

/-- All commands of the script are known, those nested in others too. -/
def Program.KnownWith (program : Program) (registry' : Registry) : Prop :=
  ∀ line c, program.script.commandAt? line = some c →
    ∀ d, Command.Within d c → program.registry.Knows registry' d

omit h in
/-- A frame asks for the script and for how its lines are settled. -/
theorem frameRun_withRegistry {settle settle' : Settle}
    (hs : ∀ (ctx : Context) (line : Nat) (c : Command), program.script.commandAt? line = some c →
      Identical Settled (settle ctx c) (settle' ctx c)) (frame : Frame) (start : Nat) :
    Identical Exit (frame.run program settle start)
      (frame.run (program.withRegistry registry') settle' start) := by
  have hcongr := Identical.congruence program.registry
  have hscript : (program.withRegistry registry').script = program.script := rfl
  calc frame.run program settle start
      = frame.run program settle' start :=
        hcongr.frameRun (fun _ line c hc => hcongr.atLine line (hs _ line c hc)) start
    _ = frame.run (program.withRegistry registry') settle' start := by
        unfold Frame.run
        rw [runLines_of_script settle' hscript]
        rfl

/-- **A command settles in the same way with one more command**, if all commands in it and in the
script are known. -/
theorem settle_withRegistry (hknown : program.KnownWith registry') (fuel : Nat) (ctx : Context)
    (c : Command) (hc : ∀ d, Command.Within d c → program.registry.Knows registry' d) :
    Identical Settled (settle program fuel ctx c)
      (settle (program.withRegistry registry') fuel ctx c) := by
  induction fuel generalizing ctx c with
  | zero => rfl
  | succ fuel ih =>
    have hcongr := Identical.congruence program.registry
    have hoptions : (program.withRegistry registry').options = program.options := rfl
    have hexec : ∀ d : Command, d.Within c → Identical Outcome
        (execute program (settle program fuel) fuel ctx d)
        (execute (program.withRegistry registry')
          (settle (program.withRegistry registry') fuel) fuel ctx d) := by
      intro d hd
      rw [execute_withRegistry h (hc d hd)]
      refine hcongr.execute (fun index e he => ih _ e fun f hf => ?_) fun _ _ _ => .same rfl fuel
      exact hc f ((hf.trans (.inner he (.refl e))).trans hd)
    have hfollow : ∀ jump, Identical Outcome (follow program (settle program fuel) ctx jump)
        (follow (program.withRegistry registry') (settle (program.withRegistry registry') fuel)
          ctx jump) := fun jump =>
      hcongr.bind (frameRun_withRegistry (fun ctx line d hd => ih ctx d (hknown line d hd)) _ _)
        fun _ _ => rfl
    unfold settle
    rw [hoptions]
    exact hcongr.bind (hexec c (.refl c)) fun o ho =>
      hcongr.toQuiet.ultimate hoptions hexec hfollow (.refl c) _ o (execute_fits o ho)

/-! ### Running -/

theorem bindHostNames_withRegistry (scope : ScopeId) (actor : Character)
    {bindings : List (String × Value)}
    (hnames : ∀ binding ∈ bindings, Text.upperCase binding.1 ≠ name) :
    program.bindHostNames scope actor bindings =
      (program.withRegistry registry').bindHostNames scope actor bindings := by
  induction bindings with
  | nil => rfl
  | cons binding bindings ih =>
    obtain ⟨hname, hnames⟩ := List.forall_mem_cons.mp hnames
    unfold Program.bindHostNames
    rw [ih hnames]
    exact congrArg (· >>= _) (h.assign_eq hname .temp scope actor.id binding.2).symm

/-- **A program runs in the same way with one more command**, if all commands of the script are
known and the host does not bind its name. -/
theorem runWithin_withRegistry (hknown : program.KnownWith registry') (fuel : Nat)
    {request : Request}
    (hnames : ∀ binding ∈ request.bindings.entries, Text.upperCase binding.1 ≠ name) :
    Identical (Option Value) (program.runWithin fuel request)
      ((program.withRegistry registry').runWithin fuel request) := by
  have hcongr := Identical.congruence program.registry
  refine hcongr.bind hcongr.newScope fun scope _ => ?_
  rw [bindHostNames_withRegistry h scope request.actor hnames]
  refine hcongr.bind rfl fun _ _ => hcongr.bind (frameRun_withRegistry ?_ _ _) fun _ _ => rfl
  exact fun ctx line c hc => settle_withRegistry h hknown fuel ctx c (hknown line c hc)

end Program

/-- **Registering an unrelated command changes nothing.** Let the name of the new command be neither
that of a command nor a word of any prepared line. Then

* sources that compile with the old registry compile to the same script with the new one, and
* if all commands of the old registry are those of the language, the script runs in the same way
  with either registry: from every state it comes to the same result and leaves the same state, for
  every host that binds no variable of that name. -/
theorem register_conservative {registry : Registry} (hk : registry.Keyed) {type : CommandType}
    (hnew : registry.hasCommand type.signature.name = false) {sources : Sources} {script : Script}
    (hscript : Script.compile registry sources = .ok script)
    (hwords : ∀ prepared, Prepared.ofSources sources = .ok prepared →
      prepared.Lacks type.signature.name) :
    Script.compile (registry.register type) sources = .ok script ∧
      (registry.OfLanguage → ∀ directory options fuel request,
        (∀ binding ∈ request.bindings.entries,
          Text.upperCase binding.1 ≠ type.signature.name) →
        ∀ s, (Program.mk script registry directory options).runWithin fuel request s =
          (Program.mk script (registry.register type) directory options).runWithin fuel request
            s) := by
  have h := Registry.extends_register hnew
  have hscript' := Script.compile_extends hk h hwords hscript
  refine ⟨hscript', fun hl directory options fuel request hnames s => ?_⟩
  have hknown : (Program.mk script registry directory options).KnownWith
      (registry.register type) := fun line c hc d hd =>
    h.knows hk (Registry.keyed_register hk type) hl (Script.compile_wellFormed hscript hc d hd)
      (Script.compile_wellFormed hscript' hc d hd)
  exact congrFun (runWithin_withRegistry h hknown fuel hnames) s

/-- A script that tells what a host has bound. -/
def crowdSources : Sources :=
  ⟨[("main", "[ask]: set: answer = crowd\nreturn: answer")]⟩

/-- A request of a host that binds the variable. -/
def crowdRequest : Request where
  actor := ⟨"c1", "BOB"⟩
  bindings := ⟨[("crowd", .text "loud")]⟩

theorem register_conservative_say : ∃ script,
    Script.compile Registry.builtin crowdSources = .ok script ∧
    Script.compile (Registry.builtin.register Registry.say) crowdSources = .ok script ∧
    ∀ fuel s,
      (Program.mk script Registry.builtin {} {}).runWithin fuel crowdRequest s =
        (Program.mk script (Registry.builtin.register Registry.say) {} {}).runWithin fuel
          crowdRequest s := by
  have hnew : Registry.builtin.hasCommand Registry.say.signature.name = false := by decide
  have hwords : ∀ prepared, Prepared.ofSources crowdSources = .ok prepared →
      prepared.Lacks Registry.say.signature.name := by decide +kernel
  have hnames : ∀ binding ∈ crowdRequest.bindings.entries,
      Text.upperCase binding.1 ≠ Registry.say.signature.name := by decide +kernel
  have hcompiles : (Script.compile Registry.builtin crowdSources).toOption.isSome = true := by
    decide +kernel
  cases hscript : Script.compile Registry.builtin crowdSources with
  | error f =>
    rw [hscript] at hcompiles
    cases hcompiles
  | ok script =>
    obtain ⟨hscript', hruns⟩ :=
      register_conservative Registry.keyed_builtin hnew hscript hwords
    exact ⟨script, rfl, hscript', fun fuel =>
      hruns Registry.ofLanguage_builtin {} {} fuel crowdRequest hnames⟩

end StageScript
