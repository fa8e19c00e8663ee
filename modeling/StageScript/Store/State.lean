import StageScript.Command.Registry
import StageScript.Fault
import StageScript.Keyword
import StageScript.Store.Basic
import StageScript.Syntax.Param

/-!
# The state of a run

A run works on the memory, the store of the world, the store of its own program, the meanings chosen
for ambiguous operators so far, and the log of its host commands. This module says how names are
looked up, set and removed in the five tiers.
-/

namespace StageScript

/-- The meaning chosen for an ambiguous operator. -/
inductive Choice where
  | add
  | subtract
  | concat
  | union
  | difference
  | and
deriving DecidableEq, Repr

/-- The meanings chosen for ambiguous operators. -/
inductive Choices where
  /-- Every operator keeps the meaning it was first given. -/
  | kept (list : List (Occurrence × Choice))
  /-- No meaning is kept, and every evaluation chooses again. -/
  | afresh

namespace Choices

instance : Inhabited Choices := ⟨.kept []⟩

/-- The meaning an operator has from before. -/
def find? : Choices → Occurrence → Option Choice
  | .kept list, place => list.lookup place
  | .afresh, _ => none

/-- Keeps the meaning chosen for an operator, if meanings are kept. -/
def add : Choices → Occurrence → Choice → Choices
  | .kept list, place, choice => .kept ((place, choice) :: list)
  | .afresh, _, _ => .afresh

end Choices

/-- **What a run works on.** -/
structure State where
  memory : Memory := {}
  world : Store := {}
  own : Store := {}
  choices : Choices := .kept []
  log : Array LogEntry := #[]
deriving Inhabited

namespace State

/-! ### Looking up -/

/-- The cell of a name in a tier other than the temporary one. -/
def stored? (s : State) (tier : Tier) (actor name : String) : Option CellId :=
  match tier with
  | .temp => none
  | .characterLocal => s.own.characters? actor name
  | .characterGlobal => s.world.characters? actor name
  | .program => s.own.shared? name
  | .world => s.world.shared? name

/-- The cell a name stands for in a tier. -/
def inTier? (s : State) (tier : Tier) (scope : ScopeId) (actor name : String) : Option CellId :=
  match tier with
  | .temp => s.memory.cellIn? scope name
  | _ => s.stored? tier actor name

/-- The cell a name stands for in the stores: the first of character-local, character-global,
program and world that has it. -/
def lookUpStored? (s : State) (actor name : String) : Option CellId :=
  s.stored? .characterLocal actor name <|> s.stored? .characterGlobal actor name <|>
    s.stored? .program actor name <|> s.stored? .world actor name

/-- The cell a name stands for: that of the scope, or else that of the stores. -/
def lookUp? (s : State) (scope : ScopeId) (actor name : String) : Option CellId :=
  s.memory.cellIn? scope name <|> s.lookUpStored? actor name

/-! ### Setting -/

/-- The tier that keeps a name from being created in another one. -/
def conflict? (s : State) (tier : Tier) (name : String) : Option Tier :=
  let inWorld := s.world.shared.contains name
  let inProgram := s.own.shared.contains name
  let inCharacters := s.world.anyCharacterHas name || s.own.anyCharacterHas name
  match tier with
  | .temp => none
  | .characterLocal | .characterGlobal =>
    if inWorld then some .world else if inProgram then some .program else none
  | .program =>
    if inWorld then some .world else if inCharacters then some .characterGlobal else none
  | .world =>
    if inProgram then some .program else if inCharacters then some .characterGlobal else none

/-- Why a name cannot be created in a tier: it is that of a command, it is reserved, or another
tier has it. -/
def refusal? (s : State) (registry : Registry) (tier : Tier) (name : String) : Option Cause :=
  if registry.hasCommand name then some (.commandName name)
  else if isReserved name then some (.reservedName name)
  else (s.conflict? tier name).map (.tierConflict tier name)

/-- Makes a name stand for a cell in a tier. -/
def place (s : State) (tier : Tier) (scope : ScopeId) (actor name : String) (cell : CellId) :
    State :=
  match tier with
  | .temp => { s with memory := s.memory.bind scope name cell }
  | .characterLocal => { s with own := s.own.addFor actor name cell }
  | .characterGlobal => { s with world := s.world.addFor actor name cell }
  | .program => { s with own := s.own.addShared name cell }
  | .world => { s with world := s.world.addShared name cell }

/-- Sets a name in a tier: writes into its cell, or makes one if nothing stands against it. -/
def assign (s : State) (registry : Registry) (tier : Tier) (scope : ScopeId)
    (actor name : String) (v : Value) : Except Fault State :=
  match s.inTier? tier scope actor name with
  | some cell => .ok { s with memory := s.memory.write cell v }
  | none =>
    match s.refusal? registry tier name with
    | some cause => .error { cause }
    | none =>
      let (cell, memory) := s.memory.newCell v
      .ok ({ s with memory }.place tier scope actor name cell)

/-- Removes a name from a tier; a name that is not there is passed over. -/
def unassign (s : State) (tier : Tier) (scope : ScopeId) (actor name : String) : State :=
  match tier with
  | .temp => { s with memory := s.memory.unbind scope name }
  | .characterLocal => { s with own := s.own.removeFor actor name }
  | .characterGlobal => { s with world := s.world.removeFor actor name }
  | .program => { s with own := s.own.removeShared name }
  | .world => { s with world := s.world.removeShared name }

/-! ### Choices and the log -/

/-- The meaning chosen for an operator. -/
def choice? (s : State) (place : Occurrence) : Option Choice := s.choices.find? place

/-- Remembers the meaning chosen for an operator. -/
def choose (s : State) (place : Occurrence) (choice : Choice) : State :=
  { s with choices := s.choices.add place choice }

/-- Appends to the log. -/
def note (s : State) (entry : LogEntry) : State := { s with log := s.log.push entry }

end State

end StageScript
