import StageScript.Engine.Run

/-!
# Sessions

Several programs may share one world. A session holds the memory, the world, and the programs by
name, each with its own store and the meanings chosen for its ambiguous operators. A program may
also be given a world of its own.
-/

namespace StageScript

/-- A program in a session. -/
structure Installed where
  program : Program
  own : Store := {}
  choices : Choices := .kept []
  /-- The world of the program alone, if it has one. -/
  privateWorld : Option Store := none

/-- Programs that share a world. -/
structure Session where
  memory : Memory := {}
  world : Store := {}
  programs : Table String Installed := Table.empty
deriving Inhabited

/-- How a run in a session ended, and what its host commands logged. -/
structure Report where
  outcome : Except Stop (Option Value)
  log : List LogEntry

namespace Session

/-- Adds a program, or replaces the one of the same name by a fresh one. -/
def install (s : Session) (id : String) (program : Program) (isPrivate : Bool) : Session :=
  let installed : Installed :=
    { program, privateWorld := if isPrivate then some {} else none }
  { s with programs := s.programs.insert id installed }

/-- The state a program runs on. -/
def stateOf (s : Session) (installed : Installed) : State where
  memory := s.memory
  world := installed.privateWorld.getD s.world
  own := installed.own
  choices := installed.choices

/-- Takes back the state after a run. -/
def takeBack (s : Session) (id : String) (installed : Installed) (state : State) : Session :=
  let after : Installed := { installed with
    own := state.own
    choices := state.choices
    privateWorld := installed.privateWorld.map fun _ => state.world }
  { memory := state.memory
    world := if installed.privateWorld.isSome then s.world else state.world
    programs := s.programs.insert id after }

/-- Runs the program of a name. -/
def run (s : Session) (id : String) (request : Request) : Option (Report × Session) :=
  (s.programs.get? id).map fun installed =>
    match installed.program.run request (s.stateOf installed) with
    | .ok v state => (⟨.ok v, state.log.toList⟩, s.takeBack id installed state)
    | .error stop state => (⟨.error stop, state.log.toList⟩, s.takeBack id installed state)

/-- What a name stands for from the outside: by tier, and for each character of the directory in
its character tiers and as the character sees it. -/
def view (s : Session) (installed : Installed) (name : String) : List (String × Value) :=
  let state := s.stateOf installed
  let shown (key : String) (cell : Option CellId) : List (String × Value) :=
    match cell with
    | some cell => [(key, s.memory.read cell)]
    | none => []
  let characters := installed.program.directory.characters.flatMap fun c =>
    shown ("global:" ++ c.id) (state.stored? .characterGlobal c.id name) ++
    shown ("local:" ++ c.id) (state.stored? .characterLocal c.id name) ++
    shown ("seen:" ++ c.id) (state.lookUpStored? c.id name)
  shown "world" (state.world.shared? name) ++ shown "program" (state.own.shared? name) ++ characters

end Session

end StageScript
