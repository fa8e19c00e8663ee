import StageScript.Proofs.Command.Language
import StageScript.Proofs.Engine.Termination
import StageScript.Proofs.Machine.Basic

/-!
# Flat programs

A command is flat if it is one of the machine's and no command stands inside of its expressions: a
jump, a return, an assignment, or a branch of flat commands. The names of the machine's commands are
those of the language (`Instruction.get?_builtin`). What the engine does to execute a flat command
does not depend on how nested commands are settled (`execute_flat`).
-/

namespace StageScript

/-! ### Instructions and behaviours -/

/-- The behaviour of an assignment. -/
def Assignment.behaviour : Assignment → Behaviour
  | set tier => .set tier
  | setHere => .setHere
  | unset tier => .unset tier
  | setFor tier => .setFor tier
  | unsetFor tier => .unsetFor tier

namespace Instruction

/-- The behaviour of an instruction. -/
def behaviour : Instruction → Behaviour
  | endAll => .endAll
  | endAndReturn => .returnAll
  | goBack => .goBack
  | returnValue => .returnValue
  | goTo => .goTo
  | call => .call
  | branch negated => .branch negated
  | assign what => what.behaviour

/-- Whether the instruction is a branch. -/
def isBranch : Instruction → Bool
  | branch _ => true
  | _ => false

/-- **The instructions are commands of the language.** -/
theorem get?_builtin {name : String} {i : Instruction} (h : ofName? name = some i) :
    ∃ signature, Registry.builtin.get? name = some ⟨signature, i.behaviour⟩ := by
  unfold ofName? at h
  split at h <;> cases h <;> exact ⟨_, rfl⟩

theorem isOpenEnded_behaviour (i : Instruction) : i.behaviour.isOpenEnded = false := by
  cases i with
  | assign what => cases what <;> rfl
  | _ => rfl

end Instruction

/-! ### Flat commands -/

/-- A command of the language that the machine knows. -/
def Command.Says (registry : Registry) (c : Command) (i : Instruction) : Prop :=
  Instruction.ofName? c.name = some i ∧ registry.get? c.name = Registry.builtin.get? c.name

/-- **A flat command**: `END`, `GO-BACK`, `RETURN`, `END-AND-RETURN`, `GO-TO`, `DO` or one of the
`SET` and `UN-SET` commands without a command in its slots, or an `IF` or `IF-NOT` whose condition
has no command in it and whose branches are flat. -/
inductive Command.Flat (registry : Registry) : Command → Prop
  | plain {c : Command} {i : Instruction} (hi : c.Says registry i) (hb : i.isBranch = false)
    (hinner : c.inner = []) : Flat registry c
  | branch {c : Command} {negated : Bool} (hi : c.Says registry (.branch negated))
    (hcondition : (c.param 0).commands = []) (hinner : ∀ d ∈ c.inner, Flat registry d) :
    Flat registry c

/-- All lines are flat. -/
def Program.Flat (program : Program) : Prop :=
  ∀ line c, program.script.commandAt? line = some c → c.Flat program.registry

theorem Command.Says.get? {registry : Registry} {c : Command} {i : Instruction}
    (h : c.Says registry i) :
    ∃ signature, registry.get? c.name = some ⟨signature, i.behaviour⟩ := by
  rw [h.2]
  exact Instruction.get?_builtin h.1

theorem Command.Says.isOpenEnded {registry : Registry} {c : Command} {i : Instruction}
    {type : CommandType} (h : c.Says registry i) (htype : registry.get? c.name = some type) :
    type.behaviour.isOpenEnded = false := by
  obtain ⟨signature, hget⟩ := h.get?
  cases htype.symm.trans hget
  exact i.isOpenEnded_behaviour

namespace Command.Flat

variable {registry : Registry} {c : Command}

theorem instruction (h : c.Flat registry) : ∃ i, c.Says registry i := by
  cases h with
  | plain hi => exact ⟨_, hi⟩
  | branch hi => exact ⟨_, hi⟩

theorem branches {i : Instruction} (h : c.Flat registry) (hi : c.Says registry i)
    (hbranch : i.isBranch = true) : ∀ d ∈ c.inner, d.Flat registry := by
  cases h with
  | plain hi' hb _ =>
    cases hi.1.symm.trans hi'.1
    rw [hb] at hbranch
    cases hbranch
  | branch _ _ hinner => exact hinner

theorem counted (h : c.Flat registry) : c.Counted registry := by
  induction h with
  | plain hi _ hinner =>
    intro d hd type htype
    cases hd with
    | refl => exact hi.isOpenEnded htype
    | inner he _ =>
      rw [hinner] at he
      cases he
  | branch hi _ _ ih =>
    intro d hd type htype
    cases hd with
    | refl => exact hi.isOpenEnded htype
    | inner he hd => exact ih _ he d hd type htype

end Command.Flat

theorem Program.Flat.counted {program : Program} (h : program.Flat) : program.Counted :=
  fun line c hc => (h line c hc).counted

/-! ### Executing flat commands -/

section Execute

variable {program : Program} {ctx : Context} {c : Command} {i : Instruction}

theorem execute_of_instruction (settle : Settle) (budget : Nat) (hi : c.Says program.registry i) :
    ∃ signature, execute program settle budget ctx c =
      perform program settle budget (ctx.child c) ⟨signature, i.behaviour⟩ := by
  obtain ⟨signature, htype⟩ := hi.get?
  refine ⟨signature, ?_⟩
  unfold execute
  rw [htype]

/-- **Executing a flat command settles no other.** -/
theorem execute_flat (settle settle' : Settle) (budget budget' : Nat)
    (h : c.Flat program.registry) :
    execute program settle budget ctx c = execute program settle' budget' ctx c := by
  have hcongr := Steady.congruence program.registry
  cases h with
  | plain hi hb hinner =>
    refine (hcongr.execute (fun index d hd => ?_) fun type htype hopen => ?_).1
    · rw [show (ctx.child c).command.inner = c.inner from rfl, hinner] at hd
      cases hd
    · rw [hi.isOpenEnded htype] at hopen
      cases hopen
  | @branch _ negated hi hcondition _ =>
    obtain ⟨signature, htype⟩ := hi.get?
    unfold execute
    rw [htype]
    refine (hcongr.branch negated fun d hd => ?_).1
    rw [show ((ctx.child c).param 0) = c.param 0 from rfl, hcondition] at hd
    cases hd

end Execute

end StageScript
