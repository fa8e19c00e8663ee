import StageScript.CommandLine.Files
import StageScript.CommandLine.Invocation
import StageScript.Directory.Json
import StageScript.Session

/-!
# Checking and running a directory of scripts

The command line writes lines of the form `KEY:value`: what the script says, then `RESULT:OK` with
what was asked for, or `RESULT:ERROR` with code and message. Everything here is a function of the
arguments and the files.
-/

namespace StageScript.CommandLine

open Text

/-- Why a directory of scripts cannot be checked or run. -/
inductive Failure where
  | scriptsMissing (path : String)
  | scriptsNotDirectory (path : String)
  | sourceUnreadable (reason : String)
  | noSources (path : String)
  | bindingWithoutSign (raw : String)
  | bindingWithoutName (raw : String)
  | actorsMissing (path : String)
  | actorsUnreadable (reason : String)
  | actorsInvalid
  | actorUnknown (key : String)
  | noActors
  | fault (f : Fault)
  | outOfFuel

namespace Failure

/-- The code of a failure. -/
def code : Failure → String
  | .scriptsMissing _ => "CLI_SOURCE_NOT_FOUND"
  | .scriptsNotDirectory _ => "CLI_SOURCE_NOT_DIR"
  | .sourceUnreadable _ => "CLI_SOURCE_READ"
  | .noSources _ => "CLI_SOURCE_EMPTY"
  | .bindingWithoutSign _ | .bindingWithoutName _ => "CLI_BIND_INVALID"
  | .actorsMissing _ => "CLI_ACTORS_NOT_FOUND"
  | .actorsUnreadable _ => "CLI_ACTORS_READ"
  | .actorsInvalid => "CLI_ACTORS_INVALID"
  | .actorUnknown _ | .noActors => "CLI_ACTOR_NOT_FOUND"
  | .fault f => f.code
  | .outOfFuel => "CLI_OUT_OF_FUEL"

/-- The wording of a failure. -/
def message : Failure → String
  | .scriptsMissing path => "scripts-dir does not exist: " ++ path
  | .scriptsNotDirectory path => "scripts-dir is not a directory: " ++ path
  | .sourceUnreadable reason | .actorsUnreadable reason => reason
  | .noSources path => "No .ows files under " ++ path
  | .bindingWithoutSign raw => "Expected NAME=VALUE, got " ++ Cause.inQuotes raw ++ "."
  | .bindingWithoutName raw => "Binding " ++ Cause.inQuotes raw ++ " has no name."
  | .actorsMissing path => "Actors file does not exist: " ++ path
  | .actorsInvalid => "The actors file does not list characters and entities."
  | .actorUnknown key => "No character " ++ Cause.inQuotes key ++ " in the actors file."
  | .noActors => "The actors file lists no characters."
  | .fault f => f.describe
  | .outOfFuel => "The script did not come to an end."

/-- The lines that report a failure. -/
def report (f : Failure) : List String :=
  ["RESULT:ERROR", "ERROR_CODE:" ++ f.code, "ERROR_MSG_JSON:" ++ Value.jsonText f.message]

end Failure

/-! ### Scripts -/

/-- Whether a file holds a script. -/
def isScript (path : String) : Bool := ".ows".toList.isSuffixOf path.toList

/-- The name of a fragment: its path with slashes. -/
def fragmentName (path : List String) : String :=
  String.ofList (("/".intercalate path).toList.map fun c => if c = '\\' then '/' else c)

/-- Reads the scripts of a directory as fragments. -/
def readFragments : List (List String × Entry) → Except Failure (List (String × String))
  | [] => .ok []
  | (path, entry) :: rest =>
    if isScript ("/".intercalate path) then
      match entry.readText with
      | .error reason => .error (.sourceUnreadable reason)
      | .ok text => do
        let fragments ← readFragments rest
        return (fragmentName path, text) :: fragments
    else readFragments rest

/-- The fragments of the scripts below a directory. -/
def loadSources (files : Files) (dir : String) : Except Failure Sources := do
  let path := files.absolute dir
  match files.find? path with
  | none => throw (.scriptsMissing path)
  | some entry =>
    if !entry.isDirectory then throw (.scriptsNotDirectory path)
    let fragments ← readFragments (entry.filesBelow [])
    if fragments.isEmpty then throw (.noSources path)
    return Table.ofList fragments

/-! ### Bindings -/

/-- Reads `NAME=VALUE`, where the value is JSON if it can be read as such and a text otherwise. -/
def readBinding (raw : String) : Except Failure (String × Value) :=
  let cs := raw.toList
  match cs.dropWhile (· ≠ '=') with
  | [] => .error (.bindingWithoutSign raw)
  | _ :: rest =>
    let name := trim (cs.takeWhile (· ≠ '='))
    if name.isEmpty then .error (.bindingWithoutName raw)
    else
      let text := String.ofList rest
      .ok (String.ofList name, (Value.ofJson? text).getD (.text text))

/-- Reads all bindings; of two with one name the later counts. -/
def readBindings (raws : List String) : Except Failure (Table String Value) := do
  let bindings ← raws.mapM readBinding
  return Table.ofList bindings

/-! ### Actors -/

/-- The directory of an actors file. -/
def loadDirectory (files : Files) (path : String) : Except Failure Directory :=
  match files.at? path with
  | none => .error (.actorsMissing path)
  | some entry =>
    match entry.readText with
    | .error reason => .error (.actorsUnreadable reason)
    | .ok text =>
      match Directory.ofJson? text with
      | some d => .ok d
      | none => .error .actorsInvalid

/-- The id of the actor when no file lists any. -/
def defaultActor : String := "player"

/-- The directory and the actor of a run. Without an actors file the actor asked for is the only
character there is. -/
def chooseActor (files : Files) (actors actor : Option String) :
    Except Failure (Directory × Character) := do
  match actors with
  | none =>
    let id := actor.getD defaultActor
    let character : Character := ⟨id, upperCase id⟩
    return ({ characters := [character] }, character)
  | some path =>
    let directory ← loadDirectory files path
    match actor with
    | some key =>
      match directory.character? key with
      | some character => return (directory, character)
      | none => throw (.actorUnknown key)
    | none =>
      match directory.characters with
      | character :: _ => return (directory, character)
      | [] => throw .noActors

/-! ### Modes -/

/-- The commands scripts may use. -/
def registry : Registry := Registry.builtin.register Registry.say

/-- Compiles sources. -/
def compile (sources : Sources) : Except Failure Script :=
  match Script.compile registry sources with
  | .ok script => .ok script
  | .error f => .error (.fault f)

/-- What a command line writes and the code it ends with. -/
structure Answer where
  exitCode : Nat
  lines : List String
deriving DecidableEq, Repr

/-- The answer to a failure after some lines. -/
def Answer.failure (said : List String) (f : Failure) : Answer := ⟨1, said ++ f.report⟩

/-- Labels as JSON. -/
def labelsJson (labels : Table String Nat) : String :=
  Value.jsonObject (labels.entries.map fun e => (e.1, toString e.2))

/-- Compiles the scripts of a directory. -/
def check (files : Files) (dir : String) : Except Failure (List String) := do
  let sources ← loadSources files dir
  let script ← compile sources
  return ["RESULT:OK", "LINES:" ++ toString script.lineCount,
    "LABELS_JSON:" ++ labelsJson script.labels]

/-- What is needed to run the scripts of a directory. -/
def prepareRun (files : Files) (dir : String) (startLabel actor actors : Option String)
    (bindings : List String) : Except Failure (Program × Request) := do
  let sources ← loadSources files dir
  let bindings ← readBindings bindings
  let (directory, actor) ← chooseActor files actors actor
  let script ← compile sources
  return ({ script, registry, directory }, { actor, start := startLabel, bindings })

/-- The line of a log entry. -/
def saidLine? : LogEntry → Option String
  | .said text => some ("SAY:" ++ text)
  | _ => none

/-- Runs a program and reports what it said and how it ended. -/
def runProgram (program : Program) (request : Request) : Answer :=
  let said (s : State) : List String := s.log.toList.filterMap saidLine?
  match program.run request {} with
  | .ok v s => ⟨0, said s ++ ["RESULT:OK", "VALUE_JSON:" ++ Value.optionToJson v]⟩
  | .error (.fault f) s => .failure (said s) (.fault f)
  | .error .outOfFuel s => .failure (said s) .outOfFuel

/-- Does what an invocation asks for. -/
def Invocation.execute (files : Files) : Invocation → Answer
  | .check dir =>
    match CommandLine.check files dir with
    | .ok lines => ⟨0, lines⟩
    | .error f => .failure [] f
  | .run dir startLabel actor actors bindings =>
    match prepareRun files dir startLabel actor actors bindings with
    | .ok (program, request) => runProgram program request
    | .error f => .failure [] f

/-- **The answer to a command line.** -/
def answer (files : Files) (arguments : List String) : Answer :=
  match Invocation.ofArguments arguments with
  | .ok invocation => invocation.execute files
  | .error usage => ⟨usage.exitCode, []⟩

end StageScript.CommandLine
