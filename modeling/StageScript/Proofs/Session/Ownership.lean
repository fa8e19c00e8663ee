import StageScript.Proofs.Engine.Termination
import StageScript.Proofs.Engine.Veil
import StageScript.Proofs.Session.Separation

/-!
# A run works on its own actor's variables

The commands that are aimed at other characters are `SET-FOR` and `UN-SET-FOR` with their local
forms. A program in which none of them stands leaves the variables of all characters but its actor
alone, in every store of the session: their names, their cells and their values.

The stores of the other characters are put behind a veil (`Session.veilFor`), together with the
cells in them and all scopes of earlier runs. It is sound when a run starts, because no two places
of a session hold one cell (`Session.Separate`).
-/

namespace StageScript

/-! ### Commands that are aimed at other characters -/

/-- The names of the commands that are aimed at other characters. -/
def Registry.targetedNames : List String :=
  ["SET-FOR", "SET-LOCALLY-FOR", "UN-SET-FOR", "UN-SET-LOCALLY-FOR"]

theorem Registry.mem_targetedNames {name : String} {type : CommandType}
    (h : builtin.get? name = some type) (htarget : type.behaviour.isTargeted = true) :
    name ∈ targetedNames := by
  have hall : ∀ type ∈ builtinCommands, type.behaviour.isTargeted = true →
      type.signature.name ∈ targetedNames := by decide
  obtain ⟨hmem, rfl⟩ := mem_of_builtin h
  exact hall type hmem htarget

/-- **No command of a program is aimed at other characters**, be it in an expression, a branch, a
binding or a collection. -/
def Program.Untargeted (program : Program) : Prop :=
  ∀ (line : Nat) (c d : Command), program.script.commandAt? line = some c → d.Within c →
    d.name ∉ Registry.targetedNames

theorem Program.Untargeted.spares {program : Program} (h : program.Untargeted)
    (hr : program.registry = Registry.builtin) (V : Veil) (line : Nat) (c : Command)
    (hc : program.script.commandAt? line = some c) : V.Spares program c := by
  intro d hd type htype htarget
  rw [hr] at htype
  exact absurd (Registry.mem_targetedNames htype htarget) (h line c d hc hd)

/-! ### The variables of other characters -/

/-- A variable of a character other than the actor. -/
def Store.Key.IsForeign (actor : String) : Store.Key → Prop
  | .shared _ => False
  | .character id _ => id ≠ actor

namespace Session

/-- The veil over the variables of all characters but the actor, in all stores, and over all scopes
of earlier runs. -/
def veilFor (s : Session) (program : String) (installed : Installed) (actor : String) : Veil where
  cells cell := ∃ p : Place, p.key.IsForeign actor ∧ s.cell? p = some cell
  scopes scope := scope < s.memory.scopes.size
  slots k := (installed.placeOf program k).key.IsForeign actor

variable {s : Session} {program : String} {installed : Installed} {actor : String}

theorem shows_veilFor : (s.veilFor program installed actor).Shows actor := by
  intro tier name k hk hforeign
  cases tier <;> cases hk
  · exact hforeign rfl
  · exact hforeign rfl
  · exact hforeign
  · exact hforeign

/-- A run starts in front of the veil. -/
theorem Separate.sound_veilFor (h : s.Separate) (hi : s.programs.get? program = some installed) :
    (s.veilFor program installed actor).Sound (s.stateOf installed) where
  cell_lt := by
    rintro cell ⟨p, -, hp⟩
    exact h.allocated p cell hp
  scope_lt scope hscope := hscope
  slot k cell hk hcell := by
    rw [← cell?_placeOf hi] at hcell
    refine ⟨h.allocated _ cell hcell, ?_⟩
    rintro ⟨p, hforeign, hp⟩
    rw [h.apart p _ cell hp hcell] at hforeign
    exact hk hforeign
  name scope name cell hscope hcell := by
    -- scopes in front of the veil are still to come
    have hnone := (s.stateOf installed).memory.cellIn?_of_size_le scope name (Nat.not_lt.mp hscope)
    rw [hnone] at hcell
    cases hcell

/-- What is behind the veil is as it was once the run is over. -/
theorem foreign_of_keeps (hi : s.programs.get? program = some installed) {t : State}
    (ht : (s.veilFor program installed actor).Keeps (s.stateOf installed) t) {p : Place}
    (hp : p.key.IsForeign actor) :
    (s.takeBack program installed t).cell? p = s.cell? p ∧
      (s.takeBack program installed t).value? p = s.value? p := by
  have hcell : (s.takeBack program installed t).cell? p = s.cell? p := by
    rcases Separate.cell?_takeBack_cases hi t p with ⟨k, rfl, hk⟩ | ⟨-, hold⟩
    · rw [hk, ht.slot k hp, cell?_placeOf hi]
    · exact hold
  exact ⟨hcell, value?_eq_of_read_eq hcell fun cell hold => ht.read cell ⟨p, hp, hold⟩⟩

/-- **A run touches only its own actor's character variables.** In a session that can be reached, a
program in which no command is aimed at other characters is run, with any fuel and whether it
succeeds or fails. Every other character then has the same names for the same cells with the same
values, in the world and in the store of every program. -/
theorem Reached.leaves_others {s : Session} (h : s.Reached) {id : String} {installed : Installed}
    (hi : s.programs.get? id = some installed)
    (hr : installed.program.registry = Registry.builtin) (hp : installed.program.Untargeted)
    (fuel : Nat) (request : Request) {other : String} (hother : other ≠ request.actor.id)
    (store : StoreName) (name : String) :
    let s' := s.takeBack id installed
      ((installed.program.runWithin fuel request).after (s.stateOf installed))
    s'.cell? ⟨store, .character other name⟩ = s.cell? ⟨store, .character other name⟩ ∧
      s'.value? ⟨store, .character other name⟩ = s.value? ⟨store, .character other name⟩ := by
  have hlanguage : installed.program.registry.OfLanguage := hr ▸ Registry.ofLanguage_builtin
  have hspares := hp.spares hr (s.veilFor id installed request.actor.id)
  have hsteps := Obeys.runWithin hlanguage hspares fuel
    shows_veilFor (s.stateOf installed) (h.separate.sound_veilFor hi)
  exact foreign_of_keeps hi (Veil.Steps.keeps hsteps) hother

/-! ### An example -/

/-- The script of the one line `SET: A = V`. -/
def ownScript : Script where
  labels := Table.empty
  lineLabels := Table.empty
  commands := ⟨[(0, ⟨"SET", [.value (.text "A"), .variable "V"], 0⟩)]⟩
  startLine := 0
  lineCount := 1

/-- The script under the commands of the language. -/
def ownProgram : Program where
  script := ownScript
  registry := Registry.builtin

/-- A run on behalf of a character for whom the host binds `V`. -/
def ownRequest (id value : String) : Request where
  actor := ⟨id, "BOB"⟩
  bindings := ⟨[("V", .text value)]⟩

/-- The session after a run for a first character. -/
def ownFirst : Session :=
  (Session.install {} "p" ownProgram false).takeBack "p" { program := ownProgram }
    ((ownProgram.runWithin 1 (ownRequest "c1" "x")).after {})

/-- The session after a run for a second character as well. -/
def ownSecond (installed : Installed) : Session :=
  ownFirst.takeBack "p" installed
    ((ownProgram.runWithin 1 (ownRequest "c2" "y")).after (ownFirst.stateOf installed))

theorem ownProgram_untargeted : ownProgram.Untargeted := by
  intro line c d hc hd
  cases List.mem_singleton.mp (Table.mem_values_of_get? hc)
  cases hd with
  | refl => decide
  | inner hd' _ => cases hd'

theorem leaves_others_own :
    ∃ installed, ownFirst.programs.get? "p" = some installed ∧
      (ownSecond installed).value? ⟨.world, .character "c2" "A"⟩ = some (.text "y") ∧
      (ownSecond installed).value? ⟨.world, .character "c1" "A"⟩ = some (.text "x") := by
  have hreached : ownFirst.Reached := .run (.install .start "p" ownProgram false) rfl 1 _
  refine ⟨_, rfl, rfl, ?_⟩
  exact (hreached.leaves_others rfl rfl ownProgram_untargeted 1 (ownRequest "c2" "y")
    (by decide) .world "A").2.trans rfl

end Session

end StageScript
