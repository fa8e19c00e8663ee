import StageScript.Proofs.Engine.Termination
import StageScript.Proofs.Grammar.WellFormed

/-!
# What behaviours need

A behaviour relies on the slots of its command: a loop on the command that it repeats, a jump on its
label, and an assignment on the name of its variable. The slots are listed once
(`Behaviour.bodySlot?`, `labelSlot?`, `nameSlot?`). The grammar fills them as the signature of a
command says, and that the signatures of the language suit the behaviours is checked over the table
of commands (`Command.WellFormed.served`).
-/

namespace StageScript

namespace Behaviour

/-- The slot of the command that a loop repeats. -/
def bodySlot? : Behaviour → Option Nat
  | .always => some 0
  | .repeatWhile _ | .counted _ | .countdownWith => some 1
  | .repeatFor | .countUpWith => some 2
  | _ => none

/-- The slot of the label that is jumped to. -/
def labelSlot? : Behaviour → Option Nat
  | .goTo | .call => some 0
  | _ => none

/-- The slot of the name of the variable that is set or removed. -/
def nameSlot? : Behaviour → Option Nat
  | .set _ | .setHere | .unset _ => some 0
  | .setFor _ | .unsetFor _ => some 1
  | _ => none

/-- **A command has what its behaviour needs.** -/
structure Served (registry : Registry) (behaviour : Behaviour) (c : Command) : Prop where
  body : ∀ i, behaviour.bodySlot? = some i → ∃ d, c.param i = .command d
  label : ∀ i, behaviour.labelSlot? = some i → ∃ label, c.param i = .ofText label
  name : ∀ i, behaviour.nameSlot? = some i →
    ∃ name, c.param i = .ofText name ∧ registry.IsFree name
  ofLanguage : behaviour.isHost = false

end Behaviour

/-! ### Slots that the grammar fills -/

namespace Signature

/-- A slot that holds a command. -/
def holdsCommand (signature : Signature) (i : Nat) : Bool :=
  signature.form = .standard && signature.params[i]? = some .command

/-- A slot that holds a label. -/
def holdsLabel (signature : Signature) (i : Nat) : Bool :=
  match signature.form with
  | .call => i = 0
  | .goTo => signature.params[i]? = some .label
  | _ => false

/-- A slot that holds the name of a variable. -/
def holdsName (signature : Signature) (i : Nat) : Bool :=
  match signature.form with
  | .set | .unset => i = 0
  | .setFor | .unsetFor => i = 1
  | _ => false

namespace Written

variable {registry : Registry} {line : Nat} {signature : Signature} {params : List Param} {i : Nat}

theorem command (h : signature.Written registry line params) (hi : signature.holdsCommand i) :
    ∃ d, params.getD i .absent = .command d := by
  obtain ⟨name, kinds, returns, form⟩ := signature
  simp only [holdsCommand, Bool.and_eq_true, decide_eq_true_eq] at hi
  obtain ⟨rfl, hkind⟩ := hi
  exact fits_of_forall₂ h hkind

theorem label (h : signature.Written registry line params) (hi : signature.holdsLabel i) :
    ∃ label, params.getD i .absent = .ofText label := by
  obtain ⟨name, kinds, returns, form⟩ := signature
  cases form with
  | call =>
    cases of_decide_eq_true hi
    obtain ⟨label, list, rfl, -⟩ := h
    exact ⟨label, rfl⟩
  | goTo =>
    obtain ⟨label, hlabel, -⟩ := fits_of_forall₂ h (of_decide_eq_true hi)
    exact ⟨label, hlabel⟩
  | _ => cases hi

theorem name (h : signature.Written registry line params) (hi : signature.holdsName i) :
    ∃ name, params.getD i .absent = .ofText name ∧ registry.IsFree name := by
  obtain ⟨command, kinds, returns, form⟩ := signature
  cases form with
  | set =>
    cases of_decide_eq_true hi
    obtain ⟨name, value, rfl, hfree⟩ := h
    exact ⟨name, rfl, hfree⟩
  | unset =>
    cases of_decide_eq_true hi
    obtain ⟨name, rfl, hfree⟩ := h
    exact ⟨name, rfl, hfree⟩
  | setFor =>
    cases of_decide_eq_true hi
    obtain ⟨targets, others, rfl, -, name, value, rfl, hfree⟩ := h
    exact ⟨name, rfl, hfree⟩
  | unsetFor =>
    cases of_decide_eq_true hi
    obtain ⟨targets, others, rfl, -, name, rfl, hfree⟩ := h
    exact ⟨name, rfl, hfree⟩
  | _ => cases hi

end Written

end Signature

/-- Where a command of the language is taken for a tier, its params are read in its own form. -/
theorem Signature.Redirected.written {registry : Registry} {type : CommandType}
    (hmem : type ∈ Registry.builtinCommands) {line : Nat} {params : List Param}
    (h : Redirected registry type.signature.name params) :
    type.signature.Written registry line params := by
  have hset : ∀ type ∈ Registry.builtinCommands,
      type.signature.name ∈ ["SET-FOR-WORLD", "SET-FOR-PROGRAM"] →
        type.signature.form = .set := by decide
  have hunset : ∀ type ∈ Registry.builtinCommands,
      type.signature.name ∈ ["UN-SET-FOR-WORLD", "UN-SET-FOR-PROGRAM"] →
        type.signature.form = .unset := by decide
  unfold Written
  rcases h with ⟨hname, hparams⟩ | ⟨hname, hparams⟩
  · rw [hset type hmem hname]
    exact hparams
  · rw [hunset type hmem hname]
    exact hparams

/-- **A command of the language that is written in its form has what its behaviour needs.** The
signatures are checked against the behaviours over the table of commands. -/
theorem Signature.Written.served {registry : Registry} {type : CommandType}
    (hmem : type ∈ Registry.builtinCommands) {line : Nat} {c : Command}
    (h : type.signature.Written registry line c.params) : type.behaviour.Served registry c := by
  have hbody : ∀ type ∈ Registry.builtinCommands, ∀ i ∈ type.behaviour.bodySlot?,
      type.signature.holdsCommand i = true := by decide
  have hlabel : ∀ type ∈ Registry.builtinCommands, ∀ i ∈ type.behaviour.labelSlot?,
      type.signature.holdsLabel i = true := by decide
  have hslot : ∀ type ∈ Registry.builtinCommands, ∀ i ∈ type.behaviour.nameSlot?,
      type.signature.holdsName i = true := by decide
  refine ⟨?_, ?_, ?_, Registry.isHost_of_mem hmem⟩
  · exact fun i hi => h.command (hbody type hmem i hi)
  · exact fun i hi => h.label (hlabel type hmem i hi)
  · exact fun i hi => h.name (hslot type hmem i hi)

/-- **A well-formed command of the language has what its behaviour needs.** -/
theorem Command.WellFormed.served {c : Command} {line : Nat}
    (h : c.WellFormed Registry.builtin line) :
    ∃ type, Registry.builtin.get? c.name = some type ∧
      type.behaviour.Served Registry.builtin c := by
  obtain ⟨key, signature, hkey, hname, -, hwritten⟩ := h.signed
  obtain ⟨type, htype, rfl⟩ := Option.map_eq_some_iff.mp hkey
  obtain ⟨hmem, rfl⟩ := Registry.mem_of_builtin htype
  have hform : type.signature.Written Registry.builtin line c.params := by
    rcases hwritten with hwritten | hredirected
    · exact hwritten
    · exact hredirected.written hmem
  exact ⟨type, by rw [hname]; exact htype, hform.served hmem⟩

theorem Command.WellFormedThroughout.inner {registry : Registry} {line : Nat} {c d : Command}
    (h : c.WellFormedThroughout registry line) (hd : d ∈ c.inner) :
    d.WellFormedThroughout registry line := fun e he => h e (.inner hd he)

/-- **A script that was compiled with the commands of the language**, run with the same. -/
structure Program.IsCompiled (program : Program) : Prop where
  registry : program.registry = Registry.builtin
  lines : ∀ number c, program.script.commandAt? number = some c →
    c.WellFormedThroughout Registry.builtin number

theorem Program.IsCompiled.ofLanguage {program : Program} (h : program.IsCompiled) :
    program.registry.OfLanguage := h.registry ▸ Registry.ofLanguage_builtin

end StageScript
