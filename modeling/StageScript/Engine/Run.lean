import StageScript.Engine.Settle

/-!
# Runs of a program

A run starts at a label, or at `START` if there is none or it is unknown, on behalf of an actor. The
host may bind names in the scope of the first frame; their letters are folded to capitals and they
are set in the order in which the host's names sort. The result is the value returned, or the last
value of a line if the lines ran out.
-/

namespace StageScript

/-- What a host asks for. -/
structure Request where
  actor : Character
  start : Option String := none
  bindings : Table String Value := Table.empty
deriving Inhabited

/-- The variable that holds the entity a script is attached to. -/
def attachedEntityName : String := "ENTITY-THIS-SCRIPT-IS-ATTACHED-TO"

/-- The request of a script that is attached to an entity. -/
def Request.fromEntity (request : Request) (entity : Entity) : Request :=
  { request with
    bindings := request.bindings.insert attachedEntityName (.object (.entity entity)) }

namespace Program

variable (program : Program)

/-- Sets the names a host binds. -/
def bindHostNames (scope : ScopeId) (actor : Character) :
    List (String × Value) → Run Unit
  | [] => pure ()
  | (name, v) :: rest => do
    Run.assign program.registry .temp scope actor.id (Text.upperCase name) v
    bindHostNames scope actor rest

/-- The line a run starts on. -/
def startLine (start : Option String) : Nat :=
  match start with
  | none => program.script.startLine
  | some label =>
    (program.script.lineOf? (Text.upperCase label)).getD program.script.startLine

/-- What a run gives for the end of its first frame. -/
def result : Exit → Option Value
  | .ended | .wentBack => none
  | .returned v | .returnedAll v => if v.isUnit then none else some v
  | .completed last => last

/-- A run with fuel for commands within commands and for the passes of loops. -/
def runWithin (fuel : Nat) (request : Request) : Run (Option Value) := do
  let scope ← Run.newScope
  program.bindHostNames scope request.actor request.bindings.entries
  let frame : Frame := ⟨request.actor, scope, 0, false⟩
  let how ← frame.run program (settle program fuel) (program.startLine request.start)
  return result how

/-- More fuel than a run can use up in practice. -/
def ampleFuel : Nat := Nat.pow 2 62

/-- **Runs the program.** -/
def run (request : Request) : Run (Option Value) := program.runWithin ampleFuel request

end Program

end StageScript
