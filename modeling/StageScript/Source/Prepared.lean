import StageScript.Source.Label
import StageScript.Table

/-!
# Prepared sources

A script is written in named fragments. Those whose file name starts with an underscore come first;
the others follow, and the run starts with them unless a line is labelled `START`. Each line of
text is stripped of its comment, divided at semicolons and folded to capitals. Blank lines around
the main part are dropped. A line that starts with `...` continues the line before it and is left
behind as a blank line, so that the numbers of the lines after it stay.
-/

namespace StageScript

open Text

/-- Fragments of source by name. -/
abbrev Sources := Table String String

namespace Sources

/-- The last part of a name with directories. -/
def fileName (name : List Char) : List Char :=
  (name.reverse.takeWhile fun c => c ≠ '/' && c ≠ '\\').reverse

/-- Whether the fragment of this name comes before the start. -/
def isPreStart (name : String) : Bool := (fileName name.toList).head? = some '_'

/-- The texts before the start, in the order of their names. -/
def preStart (sources : Sources) : List String :=
  (sources.entries.filter fun e => isPreStart e.1).map (·.2)

/-- The texts from the start on, in the order of their names. -/
def postStart (sources : Sources) : List String :=
  (sources.entries.filter fun e => !isPreStart e.1).map (·.2)

end Sources

/-! ### Statements -/

/-- The lines of a text: the first and the others. -/
def physicalLines : List Char → List Char × List (List Char)
  | [] => ([], [])
  | c :: cs =>
    let (first, others) := physicalLines cs
    if c = '\n' then ([], first :: others) else (c :: first, others)

/-- The statements of one line of text. -/
def lineStatements (line : List Char) : List (List Char) :=
  (splitStatements (stripComment (dropWhileEnd (· = '\r') line))).map foldCase

/-- The statements of a text; an empty text has none. -/
def statements (text : List Char) : List (List Char) :=
  if text.isEmpty then []
  else
    let (first, others) := physicalLines text
    (first :: others).flatMap lineStatements

/-- The lines without blank ones at either end. -/
def trimBlankEdges (lines : List (List Char)) : List (List Char) :=
  (((lines.reverse.dropWhile allBlank).reverse).dropWhile allBlank)

/-! ### Continuations -/

/-- The mark of a continuation. -/
def continuationMark : List Char := ['.', '.', '.']

/-- Whether the line continues the one before it. -/
def isContinuation (line : List Char) : Bool := continuationMark.isPrefixOf (trimStart line)

/-- What a continuation adds to the line before it. -/
def continued (line : List Char) : List Char :=
  ' ' :: trim ((trimStart line).drop continuationMark.length)

/-- Appends each run of continuations to the line before it and leaves blank lines in its place. -/
def joinContinuations : List (List Char) → List (List Char)
  | [] => []
  | line :: lines =>
    let run := lines.takeWhile isContinuation
    (line ++ run.flatMap continued) ::
      (run.map fun _ => []) ++ joinContinuations (lines.dropWhile isContinuation)
termination_by lines => lines.length
decreasing_by
  have := (List.dropWhile_sublist isContinuation (l := lines)).length_le
  simp only [List.length_cons]
  omega

/-! ### Labels -/

/-- The labels found so far and where the script starts, if a line says so. -/
structure LabelIndex where
  labels : Table String Nat
  start : Option Nat

/-- Adds a label on the line `index`. -/
def LabelIndex.add (found : LabelIndex) (name : String) (index : Nat) :
    Except Fault LabelIndex :=
  if name = startLabel then
    if found.start.isSome then .error (.on index .duplicateStart)
    else .ok ⟨found.labels.insert name index, some index⟩
  else if found.labels.contains name then .error (.on index (.duplicateLabel name))
  else .ok ⟨found.labels.insert name index, found.start⟩

/-- Takes the labels off the lines from `index` on; returns the commands and all labels. -/
def takeLabels (found : LabelIndex) (index : Nat) :
    List (List Char) → Except Fault (List (List Char) × LabelIndex)
  | [] => .ok ([], found)
  | line :: lines => do
    match ← LabelLine.ofLine? line index with
    | none =>
      let (commands, found) ← takeLabels found (index + 1) lines
      return (line :: commands, found)
    | some label =>
      let found ← found.add label.name index
      let (commands, found) ← takeLabels found (index + 1) lines
      return (label.command :: commands, found)

/-! ### The whole -/

/-- **Sources ready to be compiled line by line**, with the labels taken off. -/
structure Prepared where
  lines : List (List Char)
  labels : Table String Nat
  startLine : Nat
  preStartText : String
  postStartText : String
  rawText : String

namespace Prepared

/-- Texts one below the other. -/
def joinTexts (texts : List String) : String := "\n".intercalate texts

/-- The lines of a script with its continuations joined, and the number of statements before the
start. -/
def joinedLines (preStart postStart : String) : List (List Char) × Nat :=
  let before := statements preStart.toList
  let main := trimBlankEdges (statements postStart.toList)
  (joinContinuations (before ++ main), before.length)

/-- Prepares the fragments of a script. -/
def ofSources (sources : Sources) : Except Fault Prepared := do
  let preStartText := joinTexts sources.preStart
  let postStartText := joinTexts sources.postStart
  let (lines, implicitStart) := joinedLines preStartText postStartText
  let (lines, found) ← takeLabels ⟨Table.empty, none⟩ 0 lines
  let startLine := found.start.getD implicitStart
  return {
    lines
    labels := found.labels.insert startLabel startLine
    startLine
    preStartText
    postStartText
    rawText := joinTexts ([preStartText, postStartText].filter fun text => !text.isEmpty) }

end Prepared

end StageScript
