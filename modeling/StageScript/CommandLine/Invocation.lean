/-!
# Arguments

The command line has two modes: `check` compiles the scripts of a directory, `run` compiles and runs
them. Options are written `--name value` or `--name=value` and come in any order. An option may be
given once, except `--bind`. A value does not start with a dash unless it is a dash alone.
-/

namespace StageScript.CommandLine

/-- What the arguments ask for. -/
inductive Invocation where
  | check (scriptsDir : String)
  | run (scriptsDir : String) (startLabel actor actors : Option String) (bindings : List String)
deriving DecidableEq, Repr

/-- Why the arguments ask for nothing: help was wanted, or they are wrong. -/
inductive Usage where
  | help
  | wrong
deriving DecidableEq, Repr

/-- The exit code of a usage message. -/
def Usage.exitCode : Usage → Nat
  | .help => 0
  | .wrong => 2

/-- The options of a mode: their names, and which of them may be repeated. -/
structure OptionNames where
  single : List String
  repeated : List String

/-- The options of `check`. -/
def checkOptions : OptionNames := ⟨["scripts-dir"], []⟩

/-- The options of `run`. -/
def runOptions : OptionNames := ⟨["scripts-dir", "start-label", "actor", "actors"], ["bind"]⟩

/-- The options given so far, in order. -/
abbrev Given := List (String × String)

/-- The one value of an option. -/
def single? (given : Given) (name : String) : Option String := given.lookup name

/-- All values of an option. -/
def all (given : Given) (name : String) : List String :=
  (given.filter fun option => option.1 == name).map (·.2)

/-- An argument by its look. -/
inductive Argument where
  /-- `--`, behind which no option stands. -/
  | divider
  | long (name : String) (value : Option String)
  | short (letters : List Char)
  | plain (text : String)

/-- The look of an argument. -/
def Argument.of (text : String) : Argument :=
  match text.toList with
  | ['-', '-'] => .divider
  | '-' :: '-' :: cs =>
    let name := String.ofList (cs.takeWhile (· ≠ '='))
    match cs.dropWhile (· ≠ '=') with
    | _ :: value => .long name (some (String.ofList value))
    | [] => .long name none
  | '-' :: c :: cs => .short (c :: cs)
  | _ => .plain text

/-- Adds an option, unless it is unknown or given before. -/
def addOption (names : OptionNames) (given : Given) (name value : String) :
    Except Usage Given :=
  if names.repeated.contains name then .ok (given ++ [(name, value)])
  else if names.single.contains name && (single? given name).isNone then
    .ok (given ++ [(name, value)])
  else .error .wrong

/-- Reads the options of a mode. -/
def readOptions (names : OptionNames) (given : Given) : List String → Except Usage Given
  | [] => .ok given
  | text :: rest =>
    match Argument.of text with
    | .divider => if rest.isEmpty then .ok given else .error .wrong
    | .short letters => .error (if letters.head? = some 'h' then .help else .wrong)
    | .plain _ => .error .wrong
    | .long "help" none => .error .help
    | .long name (some value) => do
      let given ← addOption names given name value
      readOptions names given rest
    | .long name none =>
      match rest with
      | [] => .error .wrong
      | value :: rest =>
        match Argument.of value with
        | .plain value => do
          let given ← addOption names given name value
          readOptions names given rest
        | _ => .error .wrong

/-- Whether help on these words exists: on everything, or on one mode. -/
def helpExists : List String → Bool
  | [] => true
  | [mode] => ["check", "run", "help"].contains mode
  | _ => false

/-- Reads the arguments. -/
def Invocation.ofArguments : List String → Except Usage Invocation
  | "check" :: rest => do
    let given ← readOptions checkOptions [] rest
    match single? given "scripts-dir" with
    | some dir => return .check dir
    | none => throw .wrong
  | "run" :: rest => do
    let given ← readOptions runOptions [] rest
    match single? given "scripts-dir" with
    | some dir =>
      return .run dir (single? given "start-label") (single? given "actor")
        (single? given "actors") (all given "bind")
    | none => throw .wrong
  | "help" :: rest => .error (if helpExists rest then .help else .wrong)
  | text :: _ =>
    match Argument.of text with
    | .long "help" none => .error .help
    | .short letters => .error (if letters.head? = some 'h' then .help else .wrong)
    | _ => .error .wrong
  | [] => .error .wrong

end StageScript.CommandLine
