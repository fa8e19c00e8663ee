import StageScript.Command.Signature
import StageScript.Directory.Basic
import StageScript.Store.Basic
import StageScript.Syntax.Param
import StageScript.Value.Collection

/-!
# What a context offers to a command of a host

A host adds commands of its own. They are programs of the host, and all they know and do of a run
goes through the context they are executed in: they read their slots, have nested commands run, look
up, set and remove variables, and hold on to cells and scopes. Each of these is a `Service`, and
`Service.Answer` is what it hands back. What a host command does elsewhere is written to the log,
which is also its memory from one execution to the next.
-/

namespace StageScript

/-- What a host command reads from a slot of a declared kind. -/
inductive SlotReading where
  | value (v : Value)
  | line (number : Nat)

/-- What host commands write to the log. -/
inductive LogEntry where
  | said (text : String)
  | values (list : List Value)
  | readings (list : List SlotReading)
  | scope (contents : List (String × Value))
  | place (line : Nat) (actor : Character) (command : String) (loopIndex : Option Number)

/-- The text of an entry that is one. -/
def LogEntry.text? : LogEntry → Option String
  | .said text => some text
  | _ => none

/-- **Where a command is executed**, and how it is written. -/
structure Site where
  command : Command
  signature : Signature
  actor : Character
  line : Nat
  scope : ScopeId
  loopIndex : Option Number

/-- **What a context offers.** -/
inductive Service where
  | site
  /-- The characters and entities of the stage. -/
  | directory
  /-- The line of a label. -/
  | lineOf (label : String)
  -- reading the slots of the command
  /-- The value of the param that a path leads to in a slot. -/
  | evaluate (index : Nat) (path : List Nat)
  | number (index : Nat)
  | text (index : Nat)
  | boolean (index : Nat)
  | collection (index : Nat)
  | name (index : Nat)
  | labelTarget (index : Nat)
  | lineParam (index : Nat)
  /-- The cell behind the variable in a slot. -/
  | cell (index : Nat)
  /-- Runs the command in a slot to its final result. -/
  | run (index : Nat)
  -- variables by name
  | lookUp (name : String)
  | assign (tier : Tier) (name : String) (v : Value) (id : String)
  | unassign (tier : Tier) (name id : String)
  /-- The stores of the world and of the program. -/
  | stores
  -- cells and scopes
  | read (cell : CellId)
  | write (cell : CellId) (v : Value)
  | newScope
  | contents (scope : ScopeId)
  | cellIn (scope : ScopeId) (name : String)
  | bind (scope : ScopeId) (name : String) (cell : CellId)
  | setIn (scope : ScopeId) (name : String) (v : Value)
  -- the log
  | note (entry : LogEntry)
  /-- The texts that host commands have written to the log. -/
  | logged

/-- What a service hands back. -/
abbrev Service.Answer : Service → Type
  | .site => Site
  | .directory => Directory
  | .lineOf _ => Option Nat
  | .evaluate _ _ | .read _ => Value
  | .number _ => Number
  | .text _ | .name _ => String
  | .boolean _ => Bool
  | .collection _ => Collection
  | .labelTarget _ | .lineParam _ => Nat
  | .cell _ => CellId
  | .run _ => Settled
  | .lookUp _ | .cellIn _ _ => Option CellId
  | .stores => Store × Store
  | .newScope => ScopeId
  | .contents _ => List (String × Value)
  | .logged => List String
  | .assign _ _ _ _ | .unassign _ _ _ | .write _ _ | .bind _ _ _ | .setIn _ _ _ | .note _ => Unit

end StageScript
