import StageScript.Proofs.Engine.Stop

/-!
# Checks that a compiled script never fails

The engine checks what the grammar has already made sure of: that a command is registered, that a
slot holds a command or a name where its behaviour needs one, that `ALL` lists objects, and that a
new variable has a free name. The causes for which these checks stop a run are the defensive ones
(`Cause.isDefensive`).

A run of a script that was compiled with the commands of the language never stops for such a cause,
unless the host itself asks for a name that is taken (`Script.compile_sound`).
-/

namespace StageScript

/-- Causes of checks that repeat what the grammar has made sure of. -/
def Cause.isDefensive : Cause → Bool
  | .unregistered _ | .wrongList _ | .commandName _ | .reservedName _ => true
  | .wrongShape _ expected _ => expected = "command" || expected = "name"
  | _ => false

/-- The defensive causes of a name that a variable may not have. -/
def Cause.isNameRefusal : Cause → Bool
  | .commandName _ | .reservedName _ => true
  | _ => false

/-- The causes for which a compiled script stops are not defensive. -/
theorem Cause.not_isDefensive {cause : Cause}
    (h : cause.isOrdinary = true ∨ cause.isLimit = true) : cause.isDefensive = false := by
  cases cause with
  | wrongShape command expected position =>
    rcases h with h | h
    · cases of_decide_eq_true h
      rfl
    · cases h
  | _ =>
    rcases h with h | h
    all_goals first | rfl | cases h

open Run

/-- A name that the host binds is refused for no other reason than the name itself. -/
theorem isNameRefusal_of_bindHostNames {program : Program} {scope : ScopeId} {actor : Character}
    {bindings : List (String × Value)} {s t : State} {f : Fault}
    (h : program.bindHostNames scope actor bindings s = .error (.fault f) t) :
    f.cause.isNameRefusal = true := by
  induction bindings generalizing s with
  | nil => cases h
  | cons binding bindings ih =>
    rcases bind_eq_error h with h | ⟨u, s', -, h⟩
    · cases ha : s.assign program.registry .temp scope actor.id (Text.upperCase binding.1)
        binding.2 with
      | ok u =>
        rw [assign_of_ok ha] at h
        cases h
      | error g =>
        rw [assign_of_error ha] at h
        cases h
        unfold State.assign at ha
        split at ha
        · cases ha
        · split at ha
          · next cause hcause =>
            cases ha
            unfold State.refusal? at hcause
            split at hcause
            · cases hcause
              rfl
            · split at hcause <;> cases hcause
              rfl
          · cases ha
    · exact ih h

/-- A run stops for a defensive cause only where the host binds its names. -/
theorem runWithin_safe {program : Program} (hprogram : program.IsCompiled) {fuel : Nat}
    {request : Request} {s t : State} {f : Fault}
    (h : program.runWithin fuel request s = .error (.fault f) t)
    (hf : f.cause.isDefensive = true) :
    program.bindHostNames s.memory.newScope.1 request.actor request.bindings.entries
      { s with memory := s.memory.newScope.2 } = .error (.fault f) t := by
  rcases bind_eq_error h with h | ⟨scope, s₁, hscope, h⟩
  · cases h
  · cases hscope
    rcases bind_eq_error h with h | ⟨u, s₂, -, h⟩
    · exact h
    · have hrun : ∀ scope start, ((⟨request.actor, scope, 0, false⟩ : Frame).run program
          (settle program fuel) start).Stops fun f => f.cause.isDefensive = false := by
        intro scope
        refine stops_frameRun (fun _ => rfl) (fun _ _ => rfl) fun number c hc => ?_
        refine (hprogram.stops_settle fuel _ number c (hprogram.lines number c hc)).atLine ?_
        intro f hf
        rw [f.cause_atLine]
        exact Cause.not_isDefensive hf
      have hsafe : f.cause.isDefensive = false :=
        (hrun _ _).bind (fun how => stops_pure (Program.result how)) _ _ _ h
      rw [hf] at hsafe
      cases hsafe

namespace Script

/-- **What is compiled is well formed, and the engine never has to defend itself against it.** Every
command of a compiled script, at any depth, is well formed for its line. If the registry holds the
commands of the language, then a run of the script, with any fuel and on any state, stops for a
defensive cause only because the host binds a name that is reserved or that of a command. -/
theorem compile_sound {registry : Registry} {sources : Sources} {script : Script}
    (h : compile registry sources = .ok script) :
    (∀ number c d, script.commandAt? number = some c → Command.Within d c →
      d.WellFormed registry number) ∧
    (registry = Registry.builtin → ∀ program : Program, program.script = script →
      program.registry = registry → ∀ fuel request s f t,
        program.runWithin fuel request s = .error (.fault f) t → f.cause.isDefensive = true →
          f.cause.isNameRefusal = true ∧
          program.bindHostNames s.memory.newScope.1 request.actor request.bindings.entries
            { s with memory := s.memory.newScope.2 } = .error (.fault f) t) := by
  refine ⟨fun number c d hc hd => compile_wellFormed h hc d hd, ?_⟩
  rintro rfl program rfl hregistry fuel request s f t hrun hf
  have hcompiled : program.IsCompiled := ⟨hregistry, fun number c hc => compile_wellFormed h hc⟩
  have hbind := runWithin_safe hcompiled hrun hf
  exact ⟨isNameRefusal_of_bindHostNames hbind, hbind⟩

/-! ### Examples -/

/-- A source of one line. -/
def lineSource (text : String) : Sources := ⟨[("main", text)]⟩

/-- The command on a line, if the sources compile. -/
def compiledAt? (registry : Registry) (sources : Sources) (number : Nat) : Option Command :=
  (compile registry sources).toOption.bind (·.commandAt? number)

theorem exists_of_compiledAt {registry : Registry} {sources : Sources} {number : Nat} {c : Command}
    (h : compiledAt? registry sources number = some c) :
    ∃ script, compile registry sources = .ok script ∧ script.commandAt? number = some c := by
  unfold compiledAt? at h
  cases hc : compile registry sources with
  | error f =>
    rw [hc] at h
    cases h
  | ok script =>
    rw [hc] at h
    exact ⟨script, rfl, h⟩

/-- A loop over another command. -/
def loopSource : Sources := lineSource "count-up: a : set: b = \"x\""

/-- What `loopSource` is compiled to. -/
def loopCommand : Command :=
  ⟨"COUNT-UP", [.variable "A", .command ⟨"SET", [.ofText "B", .ofText "x"], 0⟩], 0⟩

theorem compile_sound_loop :
    ∃ script, compile Registry.builtin loopSource = .ok script ∧
      script.commandAt? 0 = some loopCommand ∧ loopCommand.WellFormed Registry.builtin 0 ∧
      ∀ fuel actor s f t,
        (Program.mk script Registry.builtin {} {}).runWithin fuel { actor } s =
          .error (.fault f) t → f.cause.isDefensive = false := by
  have hline : compiledAt? Registry.builtin loopSource 0 = some loopCommand := by
    with_unfolding_all rfl
  obtain ⟨script, hcompile, hcommand⟩ := exists_of_compiledAt hline
  obtain ⟨hwell, hsafe⟩ := compile_sound hcompile
  refine ⟨script, hcompile, hcommand, hwell 0 loopCommand loopCommand hcommand (.refl _), ?_⟩
  intro fuel actor s f t hrun
  by_contra hf
  -- the host binds no name, so no name of its can be refused
  obtain ⟨-, hbind⟩ := hsafe rfl _ rfl rfl fuel { actor } s f t hrun (by simpa using hf)
  cases hbind

/-- The commands of the language, with a command of the host in the place of `SET-FOR-WORLD`. -/
def redirectRegistry : Registry :=
  Registry.builtin.register
    ⟨{ name := "SET-FOR-WORLD", params := [.name, .boolean] }, .host .nothing⟩

/-- **A slot without the shape of its kind.** The line sets a variable for the world, by a command
of the standard form whose second slot is for a condition; the slot holds a text. -/
theorem not_fits_redirect :
    ∃ script c signature,
      compile redirectRegistry (lineSource "set-for: world : gold = \"x\"") = .ok script ∧
      script.commandAt? 0 = some c ∧ redirectRegistry.signature? c.name = some signature ∧
      signature.form = .standard ∧
      ¬ List.Forall₂ (ParamKind.Fits redirectRegistry 0) signature.params c.params := by
  have hline : compiledAt? redirectRegistry (lineSource "set-for: world : gold = \"x\"") 0 =
      some ⟨"SET-FOR-WORLD", [.ofText "GOLD", .ofText "x"], 0⟩ := by with_unfolding_all rfl
  obtain ⟨script, hcompile, hcommand⟩ := exists_of_compiledAt hline
  refine ⟨script, _, _, hcompile, hcommand, rfl, rfl, fun hfits => ?_⟩
  -- a text is no condition
  cases hfits with
  | cons _ hrest =>
    cases hrest with
    | cons hcondition _ => cases hcondition

end Script

end StageScript
