import StageScript.Engine.Evaluate

/-!
# Reading the slots of a command

How a command reads its own params: as a value of some kind, as a name written in the source, as the
cell behind a variable, as a label, or as a command to run.
-/

namespace StageScript

namespace Context

section Evaluated

variable (program : Program) (settle : Settle) (ctx : Context)

/-- The value of a slot. -/
def value (index : Nat) : Run Value := evaluate program settle ctx (ctx.param index)

/-- Stops because a slot has a value of the wrong kind. -/
def mismatch {α : Type} (ctx : Context) (index : Nat) (expected : String) (found : Value) :
    Run α :=
  ctx.fail (.wrongKind ctx.command.name expected (index + 1) found.kind)

/-- Stops because a slot is not written as it should be. -/
def misshapen {α : Type} (ctx : Context) (index : Nat) (expected : String) : Run α :=
  ctx.fail (.wrongShape ctx.command.name expected (index + 1))

/-- A slot as a number. -/
def number (index : Nat) : Run Number := do
  match ← ctx.value program settle index with
  | .number n => return n
  | v => ctx.mismatch index "number" v

/-- A slot as a text. -/
def text (index : Nat) : Run String := do
  match ← ctx.value program settle index with
  | .text s => return s
  | v => ctx.mismatch index "text" v

/-- A slot as a truth value. -/
def boolean (index : Nat) : Run Bool := do
  match ← ctx.value program settle index with
  | .boolean b => return b
  | v => ctx.mismatch index "boolean" v

/-- A slot as a collection. -/
def collection (index : Nat) : Run Collection := do
  match ← ctx.value program settle index with
  | .collection element items => return ⟨element, items⟩
  | v => ctx.mismatch index "collection" v

end Evaluated

variable (ctx : Context)

/-- A name written in the source. -/
def name (index : Nat) : Run String :=
  match (ctx.param index).literalText? with
  | some s => pure s
  | none => ctx.misshapen index "name"

/-- The cell behind a variable written in the source. -/
def cellSlot (index : Nat) : Run CellId :=
  match (ctx.param index).variableName? with
  | some name => ctx.resolve name
  | none => ctx.misshapen index "variable"

/-- The line of a label that is the text of a variable, in any case of letters. -/
def labelBehind? (program : Program) (name : String) : Run (Option Nat) := do
  match ← ctx.lookUp? name with
  | none => return none
  | some cell =>
    match (← Run.read cell).asText? with
    | none => return none
    | some label => return program.script.lineOf? (Text.upperCase label)

/-- The line a label leads to. A name that is no label may be a variable that holds one. -/
def labelTarget (program : Program) (index : Nat) : Run Nat := do
  let label ← ctx.name index
  match program.script.lineOf? label with
  | some line => return line
  | none =>
    match ← ctx.labelBehind? program label with
    | some line => return line
    | none => ctx.fail (.labelNotFound label)

/-- The line a slot holds, or the current line. -/
def lineParam (index : Nat) : Nat :=
  match ctx.param index with
  | .value (.number n) => if 0 ≤ n.int then n.int.toNat else ctx.line
  | _ => ctx.line

/-- The command in a slot that must hold one. -/
def body (index : Nat) : Run Command :=
  match (ctx.param index).command? with
  | some c => pure c
  | none => ctx.misshapen index "command"

/-- Runs the command in a slot; a slot left out gives unit. -/
def runCommand (settle : Settle) (index : Nat) : Run Settled :=
  match ctx.param index with
  | .command c => settle ctx c
  | .absent => pure (.value .unit)
  | _ => ctx.misshapen index "command"

end Context

end StageScript
