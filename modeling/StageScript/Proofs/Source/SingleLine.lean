import StageScript.Proofs.Grammar.FaultLine
import StageScript.Proofs.Source.OneLine

/-!
# A line on its own and a script of that line

A host can compile a line by itself or a script that consists of it. The script is prepared first:
its text is divided into lines and statements, blank edges are dropped, continuations are joined and
labels are taken off. A text without a line break, and without a semicolon that divides it, is one
statement (`Prepared.joinedLines_single`), and then preparing does no more than to take off the
comment and the label and to fold the letters. So the two agree (`compile_agrees`): they fail with
the same cause on the same line, or have the same command, and a label of the line leads to it.

For the faults this uses that the grammar puts every fault on its line: a script attaches the number
of the line to a fault, and a line on its own does not.
-/

namespace StageScript

open Text

/-! ### Preparing a single line -/

/-- Where no semicolon is found, nothing is divided. By induction on the line, which both functions
read with the same notion of what is inside a literal. -/
theorem piecesFrom_of_findFrom {inside : Bool} {offset : Nat} {line : List Char}
    (h : findFrom [';'] inside offset line = none) : piecesFrom inside line = (line, []) := by
  induction line generalizing inside offset with
  | nil => rfl
  | cons c cs ih =>
    unfold findFrom at h
    by_cases hquote : c = quote
    · rw [if_pos hquote] at h
      subst hquote
      rw [piecesFrom_quote, ih h]
    · rw [if_neg hquote] at h
      split at h
      · cases h
      · next hfound =>
        have hsemicolon : c = ';' → inside = true := by
          rintro rfl
          simpa [List.isPrefixOf] using hfound
        rw [piecesFrom_of_ne hquote hsemicolon, ih h]

/-- A blank line has no label. -/
theorem LabelLine.ofLine?_of_allBlank {line : List Char} (h : allBlank line = true) (index : Nat) :
    LabelLine.ofLine? line index = .ok none := by
  have htrim : trimStart line = [] := List.dropWhile_eq_nil_iff.mpr (List.all_eq_true.mp h)
  unfold LabelLine.ofLine? LabelLine.brackets?
  rw [htrim]

/-- The first label is never refused, and leads to its line. -/
theorem LabelIndex.add_first (name : String) (index : Nat) :
    ∃ found, add ⟨Table.empty, none⟩ name index = .ok found ∧
      found.labels = Table.empty.insert name index ∧
      (name = startLabel → found.start = some index) := by
  unfold add
  by_cases hstart : name = startLabel
  · exact ⟨_, if_pos hstart, rfl, fun _ => rfl⟩
  · exact ⟨_, if_neg hstart, rfl, fun h => absurd h hstart⟩

namespace Prepared

section Single

variable {text : String} (hline : '\n' ∉ text.toList) (hreturn : '\r' ∉ text.toList)
  (hwhole : findOutside [';'] (stripComment text.toList) = none)
include hline hreturn hwhole

/-- What is left of a text of one statement: its comment is off and its letters are folded, and if
it is blank there is no line at all. -/
theorem joinedLines_single :
    joinedLines "" text =
      (if allBlank (foldCase (stripComment text.toList)) then []
        else [foldCase (stripComment text.toList)], 0) := by
  by_cases hempty : text.toList = []
  · have htext : text = "" := String.toList_inj.mp hempty
    subst htext
    exact congrArg (·, 0) joinContinuations_nil
  · exact joinedLines_of_statements
      (statements_of_undivided hempty hline hreturn (piecesFrom_of_findFrom hwhole))

theorem ofSources_single_error {fault : Fault}
    (hlabel : LabelLine.ofLine? (foldCase (stripComment text.toList)) 0 = .error fault) :
    ofSources ⟨[("main", text)]⟩ = .error fault := by
  have hblank : ¬ allBlank (foldCase (stripComment text.toList)) = true := by
    intro hblank
    cases (LabelLine.ofLine?_of_allBlank hblank 0).symm.trans hlabel
  rw [ofSources_singleton (by decide), joinedLines_single hline hreturn hwhole, if_neg hblank]
  simp only [takeLabels, hlabel]
  rfl

/-- A single line is prepared by taking its label off, and the label leads to it. -/
theorem ofSources_single_ok {label : Option LabelLine}
    (hlabel : LabelLine.ofLine? (foldCase (stripComment text.toList)) 0 = .ok label) :
    ∃ prepared, ofSources ⟨[("main", text)]⟩ = .ok prepared ∧
      (prepared.lines = [(label.map (·.command)).getD (foldCase (stripComment text.toList))] ∨
        prepared.lines = [] ∧
          allBlank ((label.map (·.command)).getD (foldCase (stripComment text.toList))) = true) ∧
      ∀ name, label.map (·.name) = some name → prepared.labels.get? name = some 0 := by
  rw [ofSources_singleton (by decide), joinedLines_single hline hreturn hwhole]
  by_cases hblank : allBlank (foldCase (stripComment text.toList)) = true
  · cases (LabelLine.ofLine?_of_allBlank hblank 0).symm.trans hlabel
    rw [if_pos hblank]
    simp only [takeLabels]
    refine ⟨_, rfl, .inr ⟨rfl, hblank⟩, fun name hname => ?_⟩
    cases hname
  · rw [if_neg hblank]
    cases label with
    | none =>
      simp only [takeLabels, hlabel]
      refine ⟨_, rfl, .inl rfl, fun name hname => ?_⟩
      cases hname
    | some label =>
      obtain ⟨found, hadd, hlabels, hstart⟩ := LabelIndex.add_first label.name 0
      simp only [takeLabels, hlabel, bind, Except.bind, hadd]
      refine ⟨_, rfl, .inl rfl, fun name hname => ?_⟩
      cases hname
      show (found.labels.insert startLabel (found.start.getD 0)).get? label.name = some 0
      rw [Table.get?_insert, hlabels, Table.get?_insert, if_pos rfl]
      split
      · next h => rw [hstart h, Option.getD_some]
      · rfl

end Single

end Prepared

/-! ### Compiling it -/

/-- **A line on its own agrees with a script**: both have failed, for the same cause and on the same
line; or the script has the command of the line, if there is one, on its first line and no other
command, and the label of the line leads there. -/
inductive CompiledLine.Agrees : Except Fault CompiledLine → Except Fault Script → Prop
  | fails {fault fault' : Fault} (cause : fault'.cause = fault.cause)
    (line : fault'.line = fault.line) : Agrees (.error fault) (.error fault')
  | compiles {compiled : CompiledLine} {script : Script}
    (command : script.commandAt? 0 = compiled.command)
    (others : ∀ number, number ≠ 0 → script.commandAt? number = none)
    (label : ∀ name, compiled.label = some name → script.lineOf? name = some 0) :
    Agrees (.ok compiled) (.ok script)

/-- What a script says of a fault in its first line is what the line says of it, with an excerpt. -/
theorem Script.compileLine_eq_error {registry : Registry} {text : List Char} {fault : Fault}
    (h : (Line.mk registry text 0).parse = .error fault) :
    ∃ fault', compileLine registry 0 text = .error fault' ∧ fault'.cause = fault.cause ∧
      fault'.line = fault.line := by
  have hline : fault.line = some 0 := Line.line_of_parse h
  unfold compileLine
  rw [h]
  refine ⟨_, rfl, fault.cause_atLine 0, ?_⟩
  show (fault.atLine 0).line = fault.line
  unfold Fault.atLine
  rw [hline]
  dsimp only
  split
  · exact hline
  · rfl

/-- The script of a line that was prepared agrees with what is made of the line itself, if no line
is left of it where it is blank. -/
theorem CompiledLine.agrees_of_prepared {registry : Registry} {prepared : Prepared}
    {line : List Char} {label : Option String}
    (hlines : prepared.lines = [line] ∨ prepared.lines = [] ∧ allBlank line = true)
    (hlabel : ∀ name, label = some name → prepared.labels.get? name = some 0) :
    Agrees (do return ⟨label, ← commandOf registry line⟩)
      (Script.ofPrepared registry prepared) := by
  unfold commandOf Script.ofPrepared
  by_cases hblank : allBlank line = true
  · have hcommands : Script.compileLines registry 0 prepared.lines = .ok [] := by
      rcases hlines with hlines | ⟨hlines, -⟩
      · rw [hlines]
        simp only [Script.compileLines, hblank, if_true]
      · rw [hlines]
        rfl
    rw [if_pos hblank, hcommands]
    exact .compiles rfl (fun _ _ => rfl) hlabel
  · have hlines : prepared.lines = [line] := hlines.resolve_right fun h => hblank h.2
    rw [if_neg hblank, hlines]
    simp only [Script.compileLines, if_neg hblank]
    cases hparse : (Line.mk registry line 0).parse with
    | error fault =>
      obtain ⟨fault', herror, hcause, hline⟩ := Script.compileLine_eq_error hparse
      rw [herror]
      exact .fails hcause hline
    | ok c =>
      have hcommand : Script.compileLine registry 0 line = .ok c := by
        unfold Script.compileLine
        rw [hparse]
      rw [hcommand]
      refine .compiles rfl (fun number hnumber => ?_) hlabel
      exact if_neg (Ne.symm hnumber)

/-- **A line compiled on its own agrees with the script of that line**, if it has no line break and
no semicolon that divides it. -/
theorem CompiledLine.compile_agrees (registry : Registry) {text : String}
    (hline : '\n' ∉ text.toList) (hreturn : '\r' ∉ text.toList)
    (hwhole : findOutside [';'] (stripComment text.toList) = none) :
    Agrees (compile registry text.toList) (Script.compile registry ⟨[("main", text)]⟩) := by
  unfold compile Script.compile
  dsimp only
  cases hlabel : LabelLine.ofLine? (foldCase (stripComment text.toList)) 0 with
  | error fault =>
    rw [Prepared.ofSources_single_error hline hreturn hwhole hlabel]
    exact .fails rfl rfl
  | ok label =>
    obtain ⟨prepared, hprepared, hlines, hlabels⟩ :=
      Prepared.ofSources_single_ok hline hreturn hwhole hlabel
    rw [hprepared]
    cases label with
    | none => exact agrees_of_prepared hlines hlabels
    | some label => exact agrees_of_prepared hlines hlabels

/-- A label and a command in small letters, with semicolons in a literal and in the comment. -/
def greetLine : String := "  [greet]: return: \"a;b\" # c;d"

theorem compile_agrees_greet :
    '\n' ∉ greetLine.toList ∧ '\r' ∉ greetLine.toList ∧
      findOutside [';'] (stripComment greetLine.toList) = none ∧
      ∃ compiled script, CompiledLine.compile Registry.builtin greetLine.toList = .ok compiled ∧
        Script.compile Registry.builtin ⟨[("main", greetLine)]⟩ = .ok script ∧
        compiled.label = some "GREET" ∧ script.lineOf? "GREET" = some 0 ∧
        script.commandAt? 0 = compiled.command := by
  have hline : '\n' ∉ greetLine.toList := by decide +kernel
  have hreturn : '\r' ∉ greetLine.toList := by decide +kernel
  have hwhole : findOutside [';'] (stripComment greetLine.toList) = none := by decide +kernel
  have hlabel : (CompiledLine.compile Registry.builtin greetLine.toList).toOption.bind (·.label) =
      some "GREET" := by decide +kernel
  have hagrees := CompiledLine.compile_agrees Registry.builtin hline hreturn hwhole
  refine ⟨hline, hreturn, hwhole, ?_⟩
  generalize CompiledLine.compile Registry.builtin greetLine.toList = r at hlabel hagrees ⊢
  generalize Script.compile Registry.builtin ⟨[("main", greetLine)]⟩ = r' at hagrees ⊢
  cases hagrees with
  | fails => cases hlabel
  | compiles command others label => exact ⟨_, _, rfl, rfl, hlabel, label _ hlabel, command⟩

end StageScript
