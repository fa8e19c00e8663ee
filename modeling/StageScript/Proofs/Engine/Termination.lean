import StageScript.Proofs.Engine.Settle

/-!
# Programs without open-ended loops terminate

The fuel of a run is spent on commands within commands, on the frames of jumps, and on the passes
of loops whose number of passes is not known beforehand. A program without such loops
(`Program.LoopFree`) needs only so much fuel (`Program.enoughFuel`), however its lines jump: going
into a nested command makes the nesting that is left smaller, and going into the frame of a jump
makes the depth that is left smaller, after which the nesting starts again at that of a line.

`Steady` says of two runs that they are the same and do not run out of fuel. It is a congruence,
and with enough fuel on both sides it holds of settling a command (`settle_steady`) and of a run
(`runWithin_steady`).
-/

namespace StageScript

/-- Two runs are the same, and do not run out of fuel. -/
def Steady (α : Type) (m m' : Run α) : Prop :=
  m = m' ∧ ∀ s s', m s ≠ .error .outOfFuel s'

namespace Steady

variable {α β : Type}

/-- A run that stops with none but a fault. -/
theorem refl {m : Run α} (h : ∀ s s', m s ≠ .error .outOfFuel s') : Steady α m m := ⟨rfl, h⟩

theorem bind {m m' : Run α} {f f' : α → Run β} (hm : Steady α m m')
    (hf : ∀ a, m.Returns a → Steady β (f a) (f' a)) : Steady β (m >>= f) (m' >>= f') := by
  obtain ⟨rfl, hend⟩ := hm
  refine ⟨Run.bind_congr fun a ha => (hf a ha).1, fun s s' h => ?_⟩
  rcases Run.bind_eq_error h with h | ⟨a, t, ha, h⟩
  · exact hend s s' h
  · exact (hf a ⟨s, t, ha⟩).2 t s' h

theorem atLine {m m' : Run α} (line : Nat) (hm : Steady α m m') :
    Steady α (m.atLine line) (m'.atLine line) := by
  obtain ⟨rfl, hend⟩ := hm
  refine refl fun s s' h => ?_
  unfold Run.atLine at h
  split at h
  · cases h
  · exact hend s s' h

theorem attempt {m m' : Run α} (hm : Steady α m m') :
    Steady (Except Fault α) m.attempt m'.attempt := by
  obtain ⟨rfl, hend⟩ := hm
  refine refl fun s s' h => ?_
  unfold Run.attempt at h
  split at h
  · cases h
  · cases h
  · next t hstop => exact hend s t hstop

theorem ofExcept (line : Nat) (e : Except Cause α) :
    Steady α (Run.ofExcept line e) (Run.ofExcept line e) := by
  cases e with
  | ok a => exact refl fun s s' h => by cases h
  | error cause => exact refl fun s s' h => by cases h

theorem choice (ctx : Context) (place : Occurrence) (left : Value) :
    Steady Choice (ctx.choice place left) (ctx.choice place left) := by
  refine refl fun s s' h => ?_
  cases hknown : s.choice? place with
  | some choice => cases (choice_of_some ctx hknown).symm.trans h
  | none =>
    cases hc : Operator.choose place.operator left with
    | ok choice => cases (choice_of_none ctx hknown hc).symm.trans h
    | error cause => cases (choice_of_error ctx hknown hc).symm.trans h

theorem assign (registry : Registry) (tier : Tier) (scope : ScopeId) (id name : String)
    (v : Value) :
    Steady Unit (Run.assign registry tier scope id name v)
      (Run.assign registry tier scope id name v) := by
  refine refl fun s s' h => ?_
  cases ha : s.assign registry tier scope id name v with
  | ok t => cases (Run.assign_of_ok ha).symm.trans h
  | error f => cases (Run.assign_of_error ha).symm.trans h

theorem congruence (registry : Registry) : Congruence registry Steady where
  pure a := refl fun s s' h => by cases h
  fail f _ := refl fun s s' h => by cases h
  bind := bind
  raise f := refl fun s s' h => by cases h
  hosts := .inr attempt
  log := refl fun s s' h => by cases h
  stores := refl fun s s' h => by cases h
  atLine := atLine
  memory := refl fun s s' h => by cases h
  lookUp ctx name := refl fun s s' h => by cases h
  operate ctx place left _ _ hr :=
    bind (choice ctx place left) fun _ _ => bind hr fun _ _ => ofExcept _ _
  write cell v := refl fun s s' h => by cases h
  bindName scope name cell := refl fun s s' h => by cases h
  setIn scope name v := refl fun s s' h => by cases h
  newScope := refl fun s s' h => by cases h
  note entry := refl fun s s' h => by cases h
  assign := assign registry
  unassign tier scope id name := refl fun s s' h => by cases h

end Steady

/-! ### Programs whose loops are all counted -/

/-- No command within a command goes on for a number of passes not known beforehand. -/
def Command.Counted (registry : Registry) (c : Command) : Prop :=
  ∀ d : Command, d.Within c → ∀ type, registry.get? d.name = some type →
    type.behaviour.isOpenEnded = false

theorem Command.Counted.inner {registry : Registry} {c d e : Command} (h : c.Counted registry)
    (hd : d.Within c) (he : e ∈ d.inner) : e.Counted registry :=
  fun _ hd' => h _ (hd'.trans ((Command.Within.inner he (.refl e)).trans hd))

/-- The nesting of the deepest line of a script. -/
def Script.height (script : Script) : Nat := (script.commands.values.map Command.depth).foldr max 0

theorem Script.depth_le_height {script : Script} {line : Nat} {c : Command}
    (h : script.commandAt? line = some c) : c.depth ≤ script.height :=
  Command.le_foldr_max (List.mem_map_of_mem (Table.mem_values_of_get? h))

namespace Program

variable {program : Program}

/-- All lines are counted. -/
def Counted (program : Program) : Prop :=
  ∀ line c, program.script.commandAt? line = some c → c.Counted program.registry

/-- **Fuel for every run of a program without open-ended loops**: each frame takes as much as its
deepest line. -/
def enoughFuel (program : Program) : Nat :=
  (program.options.maxFrameDepth + 1) * (program.script.height + 1)

/-- The fuel that a command in a frame of some depth can use up. -/
def fuelFor (program : Program) (depth : Nat) (c : Command) : Nat :=
  (program.options.maxFrameDepth - depth) * (program.script.height + 1) + c.depth

theorem fuelFor_inner (depth : Nat) {c d e : Command} (hd : d.Within c) (he : e ∈ d.inner) :
    program.fuelFor depth e < program.fuelFor depth c :=
  Nat.add_lt_add_left (Nat.lt_of_lt_of_le (Command.depth_lt_of_mem_inner he) hd.depth_le) _

theorem fuelFor_line {depth line : Nat} {c d : Command}
    (hdepth : depth < program.options.maxFrameDepth)
    (hd : program.script.commandAt? line = some d) :
    program.fuelFor (depth + 1) d < program.fuelFor depth c := by
  have hheight := Script.depth_le_height hd
  have hleft : program.options.maxFrameDepth - depth =
      program.options.maxFrameDepth - (depth + 1) + 1 := by omega
  unfold fuelFor
  rw [hleft, Nat.add_one_mul]
  omega

theorem fuelFor_start {line : Nat} {c : Command} (hc : program.script.commandAt? line = some c) :
    program.fuelFor 0 c ≤ program.enoughFuel := by
  have hheight := Script.depth_le_height hc
  unfold fuelFor enoughFuel
  rw [Nat.sub_zero, Nat.add_one_mul]
  omega

end Program

/-! ### Enough fuel -/

section Steady

variable {program : Program} {fuel fuel' : Nat}

/-- **A command settles in the same way with any two amounts of fuel that are enough for it.** -/
theorem settle_steady (hp : program.Counted) {ctx : Context} {c : Command}
    (hc : c.Counted program.registry) (hf : program.fuelFor ctx.depth c ≤ fuel)
    (hf' : program.fuelFor ctx.depth c ≤ fuel') :
    Steady Settled (settle program fuel ctx c) (settle program fuel' ctx c) := by
  induction fuel generalizing fuel' ctx c with
  | zero =>
    have := c.depth_pos
    unfold Program.fuelFor at hf
    omega
  | succ fuel ih =>
    have hpos : 0 < program.fuelFor ctx.depth c :=
      Nat.lt_of_lt_of_le c.depth_pos (Nat.le_add_left _ _)
    obtain ⟨fuel', rfl⟩ : ∃ k, fuel' = k + 1 := ⟨fuel' - 1, by omega⟩
    refine (Steady.congruence program.registry).settle_succ ⟨?_, ?_⟩ ?_
    · intro ctx' d e hdepth hd he
      have := program.fuelFor_inner ctx.depth hd he
      refine ih (hc.inner hd he) ?_ ?_
      · rw [hdepth]; omega
      · rw [hdepth]; omega
    · intro hlt ctx' line d hdepth hline
      have := program.fuelFor_line (c := c) hlt hline
      refine ih (hp line d hline) ?_ ?_
      · rw [hdepth]; omega
      · rw [hdepth]; omega
    · intro d hd type htype hopen
      rw [hc d hd type htype] at hopen
      cases hopen

theorem runWithin_steady (hp : program.Counted) (hf : program.enoughFuel ≤ fuel)
    (hf' : program.enoughFuel ≤ fuel') (request : Request) :
    Steady (Option Value) (program.runWithin fuel request) (program.runWithin fuel' request) := by
  refine (Steady.congruence program.registry).runWithin ?_ request
  intro ctx line c hdepth hline
  have hstart := program.fuelFor_start hline
  refine settle_steady hp (hp line c hline) ?_ ?_
  · rw [hdepth]; omega
  · rw [hdepth]; omega

end Steady

/-! ### The commands of the language -/

namespace Registry

/-- The names of the commands that may go on for ever. -/
def openEndedNames : List String :=
  ["WHILE", "UNTIL", "FOR", "COUNTDOWN-WITH", "COUNT-UP-WITH", "ALWAYS"]

theorem mem_openEndedNames {name : String} {type : CommandType}
    (h : builtin.get? name = some type) (hopen : type.behaviour.isOpenEnded = true) :
    name ∈ openEndedNames := by
  have hall : ∀ type ∈ builtinCommands, type.behaviour.isOpenEnded = true →
      type.signature.name ∈ openEndedNames := by decide
  obtain ⟨hmem, rfl⟩ := mem_of_builtin h
  exact hall type hmem hopen

end Registry

/-- **No command of an open-ended loop stands anywhere in a program**, be it in an expression, a
branch, a binding or a collection. -/
def Program.LoopFree (program : Program) : Prop :=
  ∀ (line : Nat) (c d : Command), program.script.commandAt? line = some c → d.Within c →
    d.name ∉ Registry.openEndedNames

theorem Program.LoopFree.counted {program : Program} (h : program.LoopFree)
    (hr : program.registry = Registry.builtin) : program.Counted := by
  intro line c hc d hd type htype
  rw [hr] at htype
  cases hopen : type.behaviour.isOpenEnded with
  | false => rfl
  | true => exact absurd (Registry.mem_openEndedNames htype hopen) (h line c d hc hd)

/-- **Every program without open-ended loops terminates.** With enough fuel a run gives a value or
stops with a fault, and any more fuel makes no difference. The limits, the stores, the actor, the
start and the bindings are arbitrary. -/
theorem runWithin_terminates {program : Program} (hr : program.registry = Registry.builtin)
    (h : program.LoopFree) (request : Request) (s : State) :
    ((∃ v s', program.runWithin program.enoughFuel request s = .ok v s') ∨
      ∃ f s', program.runWithin program.enoughFuel request s = .error (.fault f) s') ∧
    ∀ fuel, program.enoughFuel ≤ fuel →
      program.runWithin fuel request s = program.runWithin program.enoughFuel request s := by
  have hp := h.counted hr
  refine ⟨?_, fun fuel hf => ?_⟩
  · have hend := (runWithin_steady hp (Nat.le_refl _) (Nat.le_refl _) request).2 s
    cases hrun : program.runWithin program.enoughFuel request s with
    | ok v s' => exact .inl ⟨v, s', rfl⟩
    | error e s' =>
      cases e with
      | fault f => exact .inr ⟨f, s', rfl⟩
      | outOfFuel => exact absurd hrun (hend s')
  · rw [(runWithin_steady hp hf (Nat.le_refl _) request).1]

/-! ### An example -/

/-- The script of the one line `A: GO-TO A`. -/
def spinScript : Script where
  labels := ⟨[("A", 0)]⟩
  lineLabels := ⟨[(0, "A")]⟩
  commands := ⟨[(0, ⟨"GO-TO", [.value (.text "A")], 0⟩)]⟩
  startLine := 0
  lineCount := 1

/-- The script under the commands of the language, with two frames within the first. -/
def spinProgram : Program where
  script := spinScript
  registry := Registry.builtin
  options := { maxFrameDepth := 2 }

theorem runWithin_terminates_spin :
    ∃ f s', f.cause = .callDepth 2 ∧ ∀ fuel, spinProgram.enoughFuel ≤ fuel →
      spinProgram.runWithin fuel { actor := ⟨"c1", "BOB"⟩ } {} = .error (.fault f) s' := by
  have hfree : spinProgram.LoopFree := by
    intro line c d hc hd
    cases List.mem_singleton.mp (Table.mem_values_of_get? hc)
    cases hd with
    | refl => decide
    | inner hd' _ => cases hd'
  have hfuel : spinProgram.enoughFuel = 6 := by
    have hdepth : (⟨"GO-TO", [.value (.text "A")], 0⟩ : Command).depth = 1 :=
      Command.depth_of_inner_eq_nil rfl
    show (2 + 1) * (max (⟨"GO-TO", [.value (.text "A")], 0⟩ : Command).depth 0 + 1) = 6
    rw [hdepth]
    rfl
  have hsix : ∃ f s', spinProgram.runWithin 6 { actor := ⟨"c1", "BOB"⟩ } {} =
      .error (.fault f) s' ∧ f.cause = .callDepth 2 := ⟨_, _, rfl, rfl⟩
  obtain ⟨f, s', hrun, hcause⟩ := hsix
  refine ⟨f, s', hcause, fun fuel hf => ?_⟩
  rw [(runWithin_terminates rfl hfree _ _).2 fuel hf, hfuel, hrun]

end StageScript
