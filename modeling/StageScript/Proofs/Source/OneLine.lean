import StageScript.Engine.Run
import StageScript.Proofs.Engine.Congruence
import StageScript.Proofs.Source.Literals

/-!
# Scripts of one line

A text without line breaks that no semicolon divides is one statement (`statements_of_undivided`),
and one statement is one line or, if it is blank, none (`joinedLines_of_statements`).

A line without capitals to be made, quotes, comments, semicolons and line breaks is prepared as it
stands. So a script that consists of such a line has the command that the line compiles to, and
nothing else (`Script.exists_oneLine`); if this command returns a value, so does every run of the
script (`Program.run_of_returnValue`).
-/

namespace StageScript

open Text

/-- A character that stays as it is and ends neither the line nor what is read of it. -/
def Text.isPlain (c : Char) : Bool :=
  decide (capitals c = [c]) && !([quote, '#', ';', '\n', '\r'].contains c)

theorem Text.ne_of_isPlain {c d : Char} (hc : isPlain c = true) (hd : isPlain d = false) :
    c ≠ d := by
  rintro rfl
  cases hc.symm.trans hd

namespace Prepared

variable {text : List Char}

theorem physicalLines_of_notMem (h : '\n' ∉ text) : physicalLines text = (text, []) := by
  induction text with
  | nil => rfl
  | cons c cs ih =>
    obtain ⟨hne, hcs⟩ := not_or.mp (mt List.mem_cons.mpr h)
    unfold physicalLines
    rw [ih hcs]
    exact if_neg (Ne.symm hne)

theorem dropWhileEnd_of_notMem {c : Char} (h : c ∉ text) : dropWhileEnd (· = c) text = text := by
  have hnone : text.reverse.dropWhile (· = c) = text.reverse := by
    cases hreverse : text.reverse with
    | nil => rfl
    | cons d ds =>
      have hne : d ≠ c := fun heq =>
        h (heq ▸ List.mem_reverse.mp (hreverse ▸ List.mem_cons_self))
      simp [hne]
  unfold dropWhileEnd
  rw [hnone, List.reverse_reverse]

/-- A text of one line that nothing divides is one statement. -/
theorem statements_of_undivided (hne : text ≠ []) (hline : '\n' ∉ text) (hreturn : '\r' ∉ text)
    (hpieces : piecesFrom false (stripComment text) = (stripComment text, [])) :
    statements text = [foldCase (stripComment text)] := by
  have hstatement : lineStatements text = [foldCase (stripComment text)] := by
    unfold lineStatements splitStatements
    rw [dropWhileEnd_of_notMem hreturn, hpieces]
    rfl
  unfold statements
  rw [if_neg (by simpa using hne), physicalLines_of_notMem hline]
  exact congrArg (· ++ []) hstatement

theorem joinContinuations_nil : joinContinuations [] = [] := by rw [joinContinuations]

theorem joinContinuations_singleton (line : List Char) : joinContinuations [line] = [line] := by
  rw [joinContinuations, List.dropWhile_nil, joinContinuations_nil]
  simp

/-- A main part of one statement is one line, unless it is blank. -/
theorem joinedLines_of_statements {main : String} {statement : List Char}
    (h : statements main.toList = [statement]) :
    joinedLines "" main = (if allBlank statement then [] else [statement], 0) := by
  have hbefore : statements "".toList = [] := rfl
  unfold joinedLines
  rw [hbefore, h]
  by_cases hblank : allBlank statement = true
  · have hedges : trimBlankEdges [statement] = [] := by simp [trimBlankEdges, hblank]
    rw [hedges, if_pos hblank]
    exact congrArg (·, 0) joinContinuations_nil
  · have hedges : trimBlankEdges [statement] = [statement] := by simp [trimBlankEdges, hblank]
    rw [hedges, if_neg hblank]
    exact congrArg (·, 0) (joinContinuations_singleton statement)

/-- A single fragment is prepared from its lines, with nothing in front of them. -/
theorem ofSources_singleton {name : String} (hname : Sources.isPreStart name = false)
    (text : String) :
    ofSources ⟨[(name, text)]⟩ = (do
      let (lines, found) ← takeLabels ⟨Table.empty, none⟩ 0 (joinedLines "" text).1
      let startLine := found.start.getD (joinedLines "" text).2
      return {
        lines
        labels := found.labels.insert startLabel startLine
        startLine
        preStartText := ""
        postStartText := text
        rawText := joinTexts (["", text].filter fun text => !text.isEmpty) }) := by
  have hpre : Sources.preStart ⟨[(name, text)]⟩ = [] := by simp [Sources.preStart, hname]
  have hpost : Sources.postStart ⟨[(name, text)]⟩ = [text] := by simp [Sources.postStart, hname]
  have hjoin : joinTexts [text] = text := by simp [joinTexts]
  unfold ofSources
  rw [hpre, hpost, hjoin]
  rfl

theorem uncommentedFrom_of_plain (h : ∀ c ∈ text, isPlain c = true) :
    uncommentedFrom false text = text := by
  induction text with
  | nil => rfl
  | cons c cs ih =>
    obtain ⟨hc, hcs⟩ := List.forall_mem_cons.mp h
    have hne : c ≠ quote ∧ c ≠ '#' :=
      ⟨ne_of_isPlain hc (by decide), ne_of_isPlain hc (by decide)⟩
    unfold uncommentedFrom
    rw [if_neg hne.1, if_neg (by simp [hne.2]), ih hcs]

theorem piecesFrom_of_plain (h : ∀ c ∈ text, isPlain c = true) :
    piecesFrom false text = (text, []) := by
  induction text with
  | nil => rfl
  | cons c cs ih =>
    obtain ⟨hc, hcs⟩ := List.forall_mem_cons.mp h
    have hne : c ≠ quote ∧ c ≠ ';' :=
      ⟨ne_of_isPlain hc (by decide), ne_of_isPlain hc (by decide)⟩
    rw [piecesFrom_of_ne hne.1 (fun heq => absurd heq hne.2), ih hcs]

theorem foldFrom_of_plain (h : ∀ c ∈ text, isPlain c = true) : foldFrom false text = text := by
  induction text with
  | nil => rfl
  | cons c cs ih =>
    obtain ⟨hc, hcs⟩ := List.forall_mem_cons.mp h
    have hne : c ≠ quote := ne_of_isPlain hc (by decide)
    have hcapitals : capitals c = [c] := of_decide_eq_true (Bool.and_eq_true_iff.mp hc).1
    unfold foldFrom
    rw [if_neg hne, if_neg Bool.false_ne_true, hcapitals, ih hcs]
    rfl

/-- A plain line is its only statement. -/
theorem statements_of_plain (h : ∀ c ∈ text, isPlain c = true) (hne : text ≠ []) :
    statements text = [text] := by
  have hnotMem (c : Char) (hc : isPlain c = false) : c ∉ text := fun hmem =>
    ne_of_isPlain (h c hmem) hc rfl
  have hstrip : stripComment text = text := uncommentedFrom_of_plain h
  have hfold : foldCase text = text := foldFrom_of_plain h
  have hpieces : piecesFrom false (stripComment text) = (stripComment text, []) := by
    rw [hstrip]
    exact piecesFrom_of_plain h
  rw [statements_of_undivided hne (hnotMem _ (by decide)) (hnotMem _ (by decide)) hpieces, hstrip,
    hfold]

/-- A plain line is prepared as it stands. -/
theorem ofSources_of_plain (h : ∀ c ∈ text, isPlain c = true) (hblank : allBlank text = false)
    (hlabel : LabelLine.ofLine? text 0 = .ok none) {name : String}
    (hname : Sources.isPreStart name = false) :
    ∃ prepared, ofSources ⟨[(name, String.ofList text)]⟩ = .ok prepared ∧
      prepared.lines = [text] ∧ prepared.startLine = 0 ∧
      prepared.labels = Table.empty.insert startLabel 0 := by
  have hne : text ≠ [] := by
    rintro rfl
    cases hblank
  have hstatements : statements (String.ofList text).toList = [text] := by
    rw [String.toList_ofList]
    exact statements_of_plain h hne
  have hlines : joinedLines "" (String.ofList text) = ([text], 0) := by
    rw [joinedLines_of_statements hstatements, hblank]
    rfl
  rw [ofSources_singleton hname, hlines]
  simp only [takeLabels, hlabel]
  exact ⟨_, rfl, rfl, rfl, rfl⟩

end Prepared

namespace Script

/-- **The script consists of one command**, on its first line, and has no label but `START`. -/
structure OneLine (script : Script) (c : Command) : Prop where
  commandAt? : script.commandAt? 0 = some c
  lineCount : script.lineCount = 1
  startLine : script.startLine = 0
  lineOf? : ∀ label line, script.lineOf? label = some line → line = 0

/-- **A script of one plain line compiles** if the line does. -/
theorem exists_oneLine {registry : Registry} {text : List Char} {c : Command}
    (h : ∀ d ∈ text, isPlain d = true) (hblank : allBlank text = false)
    (hlabel : LabelLine.ofLine? text 0 = .ok none) (hc : compileLine registry 0 text = .ok c)
    {name : String} (hname : Sources.isPreStart name = false) :
    ∃ script, compile registry ⟨[(name, String.ofList text)]⟩ = .ok script ∧ script.OneLine c := by
  obtain ⟨prepared, hprepared, hlines, hstart, hlabels⟩ :=
    Prepared.ofSources_of_plain h hblank hlabel hname
  have hcommands : compileLines registry 0 prepared.lines = .ok [(0, c)] := by
    rw [hlines]
    simp only [compileLines, hblank, Bool.false_eq_true, if_false, hc]
    rfl
  unfold compile ofPrepared
  simp only [hprepared, bind, Except.bind, hcommands]
  refine ⟨_, rfl, rfl, ?_, hstart, fun label line hline => ?_⟩
  · show prepared.lines.length = 1
    rw [hlines]
    rfl
  · change prepared.labels.get? label = some line at hline
    rw [hlabels, Table.get?_insert] at hline
    split at hline
    · exact (Option.some.inj hline).symm
    · cases hline

end Script

namespace Program

variable {program : Program} {c : Command} {v : Value}

/-- A run of the script starts on its line, whatever label is asked for. -/
theorem startLine_of_oneLine (h : program.script.OneLine c) (start : Option String) :
    program.startLine start = 0 := by
  unfold startLine
  cases start with
  | none => exact h.startLine
  | some label =>
    dsimp only
    cases hline : program.script.lineOf? (upperCase label) with
    | none => exact h.startLine
    | some line => exact h.lineOf? _ line hline

/-- What a run does before its first line: it makes a scope and sets the names of the host in it. -/
def setUp (program : Program) (request : Request) : Run Unit := do
  let scope ← Run.newScope
  program.bindHostNames scope request.actor request.bindings.entries

/-- Without names of the host nothing can go wrong before the first line. -/
theorem setUp_of_no_bindings {request : Request} (h : request.bindings.entries = []) (s : State) :
    program.setUp request s = .ok () { s with memory := s.memory.newScope.2 } := by
  unfold setUp
  rw [h]
  rfl

/-- **A script of one line that returns a value gives this value**, once the names of the host are
set, and changes nothing behind that. -/
theorem run_of_returnValue (h : program.script.OneLine c) (hv : v.isUnit = false)
    (hsettle : ∀ fuel ctx,
      settle program (fuel + 1) ctx c = (pure (.signal (.returnValue v)) : Run Settled))
    (request : Request) :
    program.run request = (do
      program.setUp request
      return some v) := by
  obtain ⟨fuel, hfuel⟩ : ∃ k, ampleFuel = k + 1 :=
    ⟨ampleFuel - 1, (Nat.sub_add_cancel (by decide)).symm⟩
  have hline : ∀ scope, Frame.run program (settle program (fuel + 1))
      ⟨request.actor, scope, 0, false⟩ 0 = (pure (.returned v) : Run Exit) := by
    intro scope
    unfold Frame.run
    rw [if_neg (Nat.not_lt_zero _), h.lineCount]
    simp only [Frame.runLines, h.commandAt?, hsettle]
    rfl
  have hresult : result (.returned v) = some v := if_neg (by simp [hv])
  unfold run runWithin setUp
  rw [hfuel]
  simp only [startLine_of_oneLine h, hline, pure_bind, hresult, bind_assoc]

end Program

end StageScript
