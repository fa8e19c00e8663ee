import StageScript.Command.Behaviour
import StageScript.Command.Signature
import StageScript.Table

/-!
# The registry of commands

A registry holds the commands a script may use, by name. `Registry.builtin` holds those of the
language; a host registers its own over them, and a command of the same name is replaced.
-/

namespace StageScript

/-- A command: how it is written and what it does. -/
structure CommandType where
  signature : Signature
  behaviour : Behaviour

/-- The commands a script may use, by name. -/
abbrev Registry := Table String CommandType

namespace Registry

/-- Adds a command, replacing one of the same name. -/
def register (r : Registry) (c : CommandType) : Registry := r.insert c.signature.name c

/-- Adds several commands in order. -/
def registerAll (r : Registry) (cs : List CommandType) : Registry := cs.foldl register r

/-- The signature under a name. -/
def signature? (r : Registry) (name : String) : Option Signature :=
  (Table.get? r name).map (·.signature)

/-- Whether a name is that of a command. -/
def hasCommand (r : Registry) (name : String) : Bool := (r.signature? name).isSome

/-- The names of the commands, in order. -/
def names (r : Registry) : List String := Table.keys r

/-! ### The commands of the language -/

/-- The commands that steer the run. -/
def flowCommands : List CommandType := [
  ⟨{ name := "END", params := [] }, .endAll⟩,
  ⟨{ name := "GO-BACK", params := [] }, .goBack⟩,
  ⟨{ name := "GO-TO", params := [.label, .line], form := .goTo }, .goTo⟩,
  ⟨{ name := "GOTO", params := [.label, .line], form := .goTo }, .goTo⟩,
  ⟨{ name := "DO", params := [.label, .bindings, .line], form := .call }, .call⟩,
  ⟨{ name := "IF", params := [.boolean, .command, .command], form := .conditional },
    .branch false⟩,
  ⟨{ name := "IF-NOT", params := [.boolean, .command, .command], form := .conditional },
    .branch true⟩,
  ⟨{ name := "ELSE", params := [.command] }, .strayElse⟩,
  ⟨{ name := "RETURN", params := [.any] }, .returnValue⟩,
  ⟨{ name := "END-AND-RETURN", params := [.any] }, .returnAll⟩]

/-- The commands that repeat a command. -/
def loopCommands : List CommandType := [
  ⟨{ name := "WHILE", params := [.boolean, .command] }, .repeatWhile false⟩,
  ⟨{ name := "UNTIL", params := [.boolean, .command] }, .repeatWhile true⟩,
  ⟨{ name := "FOR", params := [.boolean, .any, .command] }, .repeatFor⟩,
  ⟨{ name := "COUNTDOWN", params := [.number, .command] }, .counted true⟩,
  ⟨{ name := "COUNT-UP", params := [.number, .command] }, .counted false⟩,
  ⟨{ name := "COUNTDOWN-WITH", params := [.any, .command] }, .countdownWith⟩,
  ⟨{ name := "COUNT-UP-WITH", params := [.any, .number, .command] }, .countUpWith⟩,
  ⟨{ name := "ALWAYS", params := [.command] }, .always⟩,
  ⟨{ name := "FOR-EACH", params := [.collection .any, .command] }, .forEach⟩]

/-- A command that sets a variable of a tier. -/
def setCommand (name : String) (tier : Tier) : CommandType :=
  ⟨{ name, params := [.name, .any], form := .set }, .set tier⟩

/-- A command that removes a variable of a tier. -/
def unsetCommand (name : String) (tier : Tier) : CommandType :=
  ⟨{ name, params := [.name], form := .unset }, .unset tier⟩

/-- A command that sets a variable of several characters. -/
def setForCommand (name : String) (tier : Tier) : CommandType :=
  ⟨{ name, params := [.collection .character, .name, .any], form := .setFor }, .setFor tier⟩

/-- A command that removes a variable of several characters. -/
def unsetForCommand (name : String) (tier : Tier) : CommandType :=
  ⟨{ name, params := [.collection .character, .name], form := .unsetFor }, .unsetFor tier⟩

/-- The commands that set and remove variables. -/
def variableCommands : List CommandType := [
  setCommand "SET" .characterGlobal,
  setCommand "SET-LOCALLY" .characterLocal,
  setCommand "SET-FOR-PROGRAM" .program,
  setCommand "SET-FOR-WORLD" .world,
  ⟨{ name := "SET-HERE", params := [.name, .any], form := .set }, .setHere⟩,
  unsetCommand "UN-SET" .characterGlobal,
  unsetCommand "UN-SET-LOCALLY" .characterLocal,
  unsetCommand "UN-SET-FOR-PROGRAM" .program,
  unsetCommand "UN-SET-FOR-WORLD" .world,
  setForCommand "SET-FOR" .characterGlobal,
  unsetForCommand "UN-SET-FOR" .characterGlobal,
  setForCommand "SET-LOCALLY-FOR" .characterLocal,
  unsetForCommand "UN-SET-LOCALLY-FOR" .characterLocal]

/-- The commands of the language. -/
def builtinCommands : List CommandType := flowCommands ++ loopCommands ++ variableCommands

/-- The registry of the commands of the language. -/
def builtin : Registry := registerAll Table.empty builtinCommands

/-- The command that shows a value. -/
def say : CommandType := ⟨{ name := "SAY", params := [.any] }, .host .say⟩

end Registry

end StageScript
