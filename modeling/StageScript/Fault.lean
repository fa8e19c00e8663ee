import StageScript.Signal
import StageScript.Tier

/-!
# Faults

A fault is why a script cannot be compiled or a run cannot go on. Its `Cause` says what happened;
code and wording are functions of the cause. The line is the innermost one the fault was raised on,
and the trace lists the lines of the enclosing frames, innermost first. `Fault.atLine` attaches
these while the frames unwind.
-/

namespace StageScript

/-- What went wrong. -/
inductive Cause where
  -- preparing fragments
  | duplicateStart
  | duplicateLabel (name : String)
  | invalidLabel (name : String)
  | reservedLabel (name : String)
  -- reading the tokens of a line
  | unterminatedString (column : Nat)
  | malformedNumber (literal : String)
  | unexpectedCharacter (c : Char)
  -- reading a command
  | missing (expected : String)
  | unexpected (expected rest : String)
  | trailingText (rest : String)
  | unknownCommand (name : String) (suggestion : Option String)
  | tooFewParams (command : String) (wanted : Nat)
  | paramCount (command : String) (wanted given : Nat)
  | reservedVariable (name : String)
  | reservedValue (word : String)
  | commandAsVariable (name : String)
  | unterminatedBindings
  | unterminatedCollection
  | unterminatedCondition
  | allUnsupported (element : ElementKind)
  -- collections
  | misfit (found : ValueKind) (element : ElementKind)
  -- running
  | unregistered (command : String)
  | tailCallLimit (limit : Nat)
  | callDepth (limit : Nat)
  | noReturnTarget
  | unresolved (name : String)
  | loopIndexUnbound
  | loopObject
  | forEach
  | elseWithoutIf
  | signalAsValue (command : String) (signal : Signal)
  | bindingsAsValue
  | wrongKind (command expected : String) (position : Nat) (found : ValueKind)
  | wrongShape (command expected : String) (position : Nat)
  | wrongTarget (command : String) (found : ValueKind)
  | wrongCounter (command : String) (found : ValueKind)
  | wrongStep
  | wrongList (element : ElementKind)
  | labelNotFound (name : String)
  | objectNotFound (element : ElementKind) (key : String)
  | unsupportedOperator (operator : String) (found : ValueKind)
  | notACondition (found : ValueKind)
  | notALogicalOperand (found : ValueKind)
  | unordered (left right : ValueKind)
  | commandName (name : String)
  | reservedName (name : String)
  | tierConflict (wanted : Tier) (name : String) (existing : Tier)
  -- raised by a host
  | raised (code text : String)

namespace Cause

/-- The code of a cause. -/
def code : Cause → String
  | .duplicateStart => "COMPILE_DUPLICATE_START"
  | .duplicateLabel _ => "COMPILE_DUPLICATE_LABEL"
  | .invalidLabel _ => "COMPILE_INVALID_LABEL"
  | .reservedLabel _ | .reservedVariable _ => "COMPILE_RESERVED_KEYWORD"
  | .unterminatedString _ => "COMPILE_UNTERMINATED_STRING"
  | .malformedNumber _ => "COMPILE_MALFORMED_NUMBER"
  | .unexpectedCharacter _ | .unexpected _ _ | .reservedValue _ => "COMPILE_UNEXPECTED_TOKEN"
  | .missing _ => "COMPILE_MISSING_VALUE"
  | .trailingText _ => "COMPILE_TRAILING_TEXT"
  | .unknownCommand _ _ => "COMPILE_UNKNOWN_COMMAND"
  | .tooFewParams _ _ | .paramCount _ _ _ => "COMPILE_PARAMETER_COUNT"
  | .commandAsVariable _ => "COMPILE_NAME_CONFLICT"
  | .unterminatedBindings | .unterminatedCollection => "COMPILE_UNTERMINATED_COLLECTION"
  | .unterminatedCondition => "COMPILE_UNTERMINATED_CONDITION"
  | .allUnsupported _ => "COMPILE_ALL_UNSUPPORTED"
  | .misfit _ _ => "ENGINE_COLLECTION_TYPE"
  | .unregistered _ => "ENGINE_UNKNOWN_COMMAND"
  | .tailCallLimit _ => "ENGINE_TAIL_CALL_LIMIT"
  | .callDepth _ => "ENGINE_CALL_DEPTH"
  | .noReturnTarget => "ENGINE_NO_RETURN_TARGET"
  | .unresolved _ => "ENGINE_UNRESOLVED_VARIABLE"
  | .loopIndexUnbound => "ENGINE_LOOP_INDEX_UNBOUND"
  | .loopObject | .forEach => "ENGINE_NOT_IMPLEMENTED"
  | .elseWithoutIf => "ENGINE_ELSE_WITHOUT_IF"
  | .signalAsValue _ _ => "ENGINE_CONTROL_FLOW_IN_VALUE"
  | .bindingsAsValue | .wrongKind _ _ _ _ | .wrongShape _ _ _ | .wrongTarget _ _
  | .wrongCounter _ _ | .wrongStep | .wrongList _ | .notACondition _ => "ENGINE_TYPE_MISMATCH"
  | .labelNotFound _ => "ENGINE_LABEL_NOT_FOUND"
  | .objectNotFound _ _ => "ENGINE_OBJECT_NOT_FOUND"
  | .unsupportedOperator _ _ => "ENGINE_UNSUPPORTED_OPERATOR"
  | .notALogicalOperand _ | .unordered _ _ => "ENGINE_INVALID_COMPARISON"
  | .commandName _ | .tierConflict _ _ _ => "ENGINE_NAME_CONFLICT"
  | .reservedName _ => "ENGINE_RESERVED_NAME"
  | .raised code _ => code

/-- A text between double quotes, as it stands. -/
def inQuotes (s : String) : String := "\"" ++ s ++ "\""

/-- The wording of a cause. -/
def message : Cause → String
  | .duplicateStart =>
    "Multiple START labels detected. Only one START label is allowed per program."
  | .duplicateLabel name => "Label " ++ inQuotes name ++ " is declared more than once."
  | .invalidLabel name => inQuotes name ++ " is not a valid label name."
  | .reservedLabel name => "Tried to use reserved keyword as label name: " ++ name
  | .unterminatedString column =>
    "String literal starting at column " ++ toString column ++ " is never closed."
  | .malformedNumber literal => inQuotes literal ++ " is not a valid number."
  | .unexpectedCharacter c => "Unexpected character '" ++ c.toString ++ "'."
  | .missing expected => "Expected " ++ expected ++ " but the line ended."
  | .unexpected expected rest => "Expected " ++ expected ++ " at: " ++ rest
  | .trailingText rest => "Unexpected text after command: " ++ rest
  | .unknownCommand name (some known) =>
    "Unknown command " ++ inQuotes name ++ ". Did you mean " ++ inQuotes known ++ "?"
  | .unknownCommand name none => "Unknown command " ++ inQuotes name ++ "."
  | .tooFewParams command wanted =>
    command ++ " expects " ++ toString wanted ++ " parameter(s)."
  | .paramCount command wanted given =>
    command ++ " takes " ++ toString wanted ++ " parameter(s) but " ++ toString given ++
      " were given."
  | .reservedVariable name => "Tried to use reserved keyword as variable name: " ++ name
  | .reservedValue word => "Reserved keyword " ++ word ++ " cannot be used as a value."
  | .commandAsVariable name =>
    inQuotes name ++ " is a command name and cannot name a variable."
  | .unterminatedBindings => "WITH bindings are missing a closing ']'."
  | .unterminatedCollection => "Collection is missing a closing ']'."
  | .unterminatedCondition => "Missing closing ')'."
  | .allUnsupported element =>
    "[ALL] is only available for characters and entities, not " ++ element.name ++ "."
  | .misfit found element =>
    "Cannot add a " ++ found.name ++ " to a collection of " ++ element.name ++ "."
  | .unregistered command => "No command named " ++ command ++ " is registered."
  | .tailCallLimit limit =>
    "More than " ++ toString limit ++ " chained commands on one line."
  | .callDepth limit => "More than " ++ toString limit ++ " nested GO-TO/DO frames."
  | .noReturnTarget => "GO-BACK has no GO-TO or DO to return to."
  | .unresolved name => "Variable " ++ name ++ " is not set."
  | .loopIndexUnbound => "LOOP-INDEX is only bound inside COUNTDOWN and COUNT-UP bodies."
  | .loopObject => "LOOP-OBJECT is not supported yet."
  | .forEach => "FOR-EACH is not supported yet."
  | .elseWithoutIf => "ELSE must follow the command of an IF on the same line."
  | .signalAsValue command signal =>
    command ++ " produced " ++ signal.describe ++ " where a value was expected."
  | .bindingsAsValue => "WITH bindings cannot be used as a value."
  | .wrongKind command expected position found =>
    command ++ " expects a " ++ expected ++ " in parameter " ++ toString position ++
      ", found " ++ found.name ++ "."
  | .wrongShape command expected position =>
    command ++ " expects a " ++ expected ++ " in parameter " ++ toString position ++ "."
  | .wrongTarget command found =>
    command ++ " expects characters, found " ++ found.name ++ "."
  | .wrongCounter command found =>
    command ++ " expects a number variable, found " ++ found.name ++ "."
  | .wrongStep => "FOR expects a step that updates a variable, such as I + 1."
  | .wrongList element => "[ALL] cannot list " ++ element.name ++ " values."
  | .labelNotFound name => "No label named " ++ name ++ "."
  | .objectNotFound element key => "No " ++ element.name ++ " named " ++ key ++ "."
  | .unsupportedOperator operator found =>
    "Operator " ++ operator ++ " cannot be applied to a " ++ found.name ++ "."
  | .notACondition found => "Expected a boolean for a condition, found " ++ found.name ++ "."
  | .notALogicalOperand found => "Expected a boolean for AND/OR, found " ++ found.name ++ "."
  | .unordered left right =>
    "Cannot order a " ++ left.name ++ " against a " ++ right.name ++ "."
  | .commandName name => name ++ " is a command name and cannot name a variable."
  | .reservedName name => name ++ " is a reserved keyword and cannot name a variable."
  | .tierConflict wanted name existing =>
    "Cannot create " ++ wanted.name ++ " variable " ++ name ++ ": a " ++ existing.name ++
      " variable already uses that name."
  | .raised _ text => text

end Cause

/-- The families of faults a host may want to tell apart. -/
inductive FaultKind where
  | compile
  | unresolvedVariable
  | invalidComparison
  | unsupportedOperator
  | type
  | controlFlowMisuse
  | notImplemented
  | limit
  | host
deriving DecidableEq, Repr

/-- The family of a code; codes of a host have no family of their own. -/
def FaultKind.ofCode (code : String) : FaultKind :=
  if "COMPILE_".toList.isPrefixOf code.toList then .compile
  else match code with
    | "ENGINE_UNRESOLVED_VARIABLE" | "ENGINE_LOOP_INDEX_UNBOUND" => .unresolvedVariable
    | "ENGINE_INVALID_COMPARISON" => .invalidComparison
    | "ENGINE_UNSUPPORTED_OPERATOR" => .unsupportedOperator
    | "ENGINE_TYPE_MISMATCH" | "ENGINE_COLLECTION_TYPE" => .type
    | "ENGINE_NO_RETURN_TARGET" | "ENGINE_ELSE_WITHOUT_IF" | "ENGINE_LABEL_NOT_FOUND"
    | "ENGINE_CONTROL_FLOW_IN_VALUE" => .controlFlowMisuse
    | "ENGINE_NOT_IMPLEMENTED" => .notImplemented
    | "ENGINE_TAIL_CALL_LIMIT" | "ENGINE_CALL_DEPTH" => .limit
    | _ => .host

/-- The line of source a compile fault is about, quoted behind its message. -/
structure Excerpt where
  line : Nat
  text : String
deriving DecidableEq, Repr

/-- **A fault**, with the lines it was raised on and passed through. -/
structure Fault where
  cause : Cause
  excerpt : Option Excerpt := none
  /-- The innermost line the fault was raised on. -/
  line : Option Nat := none
  /-- The lines of the enclosing frames, innermost first. -/
  trace : List Nat := []

namespace Fault

/-- A fault raised on a line. -/
def on (line : Nat) (cause : Cause) : Fault := { cause, line := some line }

/-- The code of a fault. -/
def code (f : Fault) : String := f.cause.code

/-- The message of a fault, with the excerpt behind it. -/
def message (f : Fault) : String :=
  match f.excerpt with
  | none => f.cause.message
  | some e => f.cause.message ++ " [line " ++ toString e.line ++ ": " ++ e.text ++ "]"

/-- The family of a fault. -/
def kind (f : Fault) : FaultKind := .ofCode f.code

/-- Attaches a line while unwinding: the first becomes the line of the fault, a repetition of it
directly afterwards is dropped, and every other one joins the trace. -/
def atLine (f : Fault) (line : Nat) : Fault :=
  match f.line with
  | none => { f with line := some line }
  | some current =>
    if current = line && f.trace.isEmpty then f else { f with trace := f.trace ++ [line] }

/-- The message with the lines behind it, for the author of the script. -/
def describe (f : Fault) : String :=
  let lineText := match f.line with
    | none => ""
    | some line => " (line " ++ toString line ++ ")"
  f.message ++ lineText ++ String.join (f.trace.map fun line => " <- line " ++ toString line)

/-- Code and message. -/
def display (f : Fault) : String := f.code ++ ": " ++ f.message

end Fault

end StageScript
