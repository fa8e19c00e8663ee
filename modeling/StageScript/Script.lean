import StageScript.Grammar.Command
import StageScript.Source.Prepared

/-!
# Compiled scripts

`Script.compile` compiles the fragments of a script: every line that is not blank becomes a command.
`CompiledLine.compile` compiles a single line on its own, with its label if it has one.
-/

namespace StageScript

open Text

/-- **A compiled script.** Blank lines have no command. -/
structure Script where
  labels : Table String Nat
  lineLabels : Table Nat String
  commands : Table Nat Command
  startLine : Nat
  lineCount : Nat
  preStartText : String := ""
  postStartText : String := ""
  rawText : String := ""
deriving Inhabited

namespace Script

/-- The command on a line. -/
def commandAt? (s : Script) (line : Nat) : Option Command := s.commands.get? line

/-- The line of a label. -/
def lineOf? (s : Script) (label : String) : Option Nat := s.labels.get? label

/-- The label of a line. -/
def labelAt? (s : Script) (line : Nat) : Option String := s.lineLabels.get? line

/-- Compiles a line of a script. A fault quotes the line. -/
def compileLine (registry : Registry) (index : Nat) (text : List Char) : Except Fault Command :=
  match (Line.mk registry text index).parse with
  | .ok command => .ok command
  | .error fault =>
    .error { fault.atLine index with excerpt := some ⟨index, String.ofList (trim text)⟩ }

/-- Compiles the lines from `index` on. -/
def compileLines (registry : Registry) (index : Nat) :
    List (List Char) → Except Fault (List (Nat × Command))
  | [] => .ok []
  | text :: texts =>
    if allBlank text then compileLines registry (index + 1) texts
    else do
      let command ← compileLine registry index text
      let commands ← compileLines registry (index + 1) texts
      return (index, command) :: commands

/-- Notes a label on its line; another label takes the place of `START`. -/
def noteLabel (byLine : Table Nat String) (entry : String × Nat) : Table Nat String :=
  match byLine.get? entry.2 with
  | some current =>
    if current = startLabel then byLine.insert entry.2 entry.1 else byLine
  | none => byLine.insert entry.2 entry.1

/-- The labels by line. -/
def labelsByLine (labels : Table String Nat) : Table Nat String :=
  labels.entries.foldl noteLabel Table.empty

/-- The script of prepared sources. -/
def ofPrepared (registry : Registry) (prepared : Prepared) : Except Fault Script := do
  let commands ← compileLines registry 0 prepared.lines
  return {
    labels := prepared.labels
    lineLabels := labelsByLine prepared.labels
    commands := ⟨commands⟩
    startLine := prepared.startLine
    lineCount := prepared.lines.length
    preStartText := prepared.preStartText
    postStartText := prepared.postStartText
    rawText := prepared.rawText }

/-- Compiles the fragments of a script. -/
def compile (registry : Registry) (sources : Sources) : Except Fault Script := do
  let prepared ← Prepared.ofSources sources
  ofPrepared registry prepared

end Script

/-- A line compiled on its own. -/
structure CompiledLine where
  label : Option String
  command : Option Command

namespace CompiledLine

/-- The command of a text, none if it is blank. -/
def commandOf (registry : Registry) (text : List Char) : Except Fault (Option Command) :=
  if allBlank text then .ok none else ((Line.mk registry text 0).parse).map some

/-- Compiles a single line. -/
def compile (registry : Registry) (text : List Char) : Except Fault CompiledLine := do
  let folded := foldCase (stripComment text)
  match ← LabelLine.ofLine? folded 0 with
  | some label => return ⟨some label.name, ← commandOf registry label.command⟩
  | none => return ⟨none, ← commandOf registry folded⟩

end CompiledLine

end StageScript
