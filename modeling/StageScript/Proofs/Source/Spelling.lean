import StageScript.Proofs.Grammar.WellFormed
import StageScript.Proofs.Text.Ascii
import StageScript.Script

/-!
# The spelling of sources

How a source is spelled is up to its author: letters outside string literals may be small or
capital, what a comment says is not read, and lines may end with or without carriage returns.
`Text.plain` takes all this out of a text. Sources that are the same then compile to the same script
but for their texts, or to the same fault (`Script.compile_of_plain_eq`).

A text is made plain character by character, with the place of the character in its line: in the
code, in a literal or in a comment. It is read in other steps: it is cut into lines, carriage
returns are trimmed at their ends, comments are dropped, and what is left is divided into statements
and folded to capitals. Each of these steps is shown to take the plain text as it takes the text;
below the level of lines only the letters are left of the difference (`capitalsFrom`).
-/

namespace StageScript

namespace Text

/-! ### Plain texts -/

/-- Where a character stands in its line. -/
inductive Place where
  | code
  | literal
  | comment
deriving DecidableEq

/-- The place of the character behind `c`. -/
def Place.next (p : Place) (c : Char) : Place :=
  if c = '\n' then .code
  else match p with
    | .code => if c = quote then .literal else if c = '#' then .comment else .code
    | .literal => if c = quote then .code else .literal
    | .comment => .comment

/-- Whether the line ends here, but for carriage returns. The end of the text ends no line. -/
def endsLine (cs : List Char) : Bool := (cs.dropWhile (· = '\r')).head? = some '\n'

/-- The plain text from a place on: without the carriage returns at the ends of lines and without
what comments say, in ASCII capitals outside literals. -/
def plainFrom (p : Place) : List Char → List Char
  | [] => []
  | c :: cs =>
    if c = '\r' && endsLine cs || p = .comment && c ≠ '\n' then plainFrom p cs
    else (if p = .code then c.toUpper else c) :: plainFrom (p.next c) cs

/-- **The text without its spelling.** -/
def plain (text : String) : String := String.ofList (plainFrom .code text.toList)

/-! ### Lines -/

/-- The lines of a text. -/
def lines (text : List Char) : List (List Char) :=
  (physicalLines text).1 :: (physicalLines text).2

theorem physicalLines_cons (c : Char) (cs : List Char) :
    physicalLines (c :: cs) =
      if c = '\n' then ([], lines cs)
      else (c :: (physicalLines cs).1, (physicalLines cs).2) := rfl

theorem lines_append (cs ds : List Char) : lines (cs ++ '\n' :: ds) = lines cs ++ lines ds := by
  induction cs with
  | nil => rfl
  | cons c cs ih =>
    unfold lines at ih ⊢
    obtain ⟨hfirst, hothers⟩ := List.cons.inj ih
    simp only [List.cons_append, physicalLines_cons, lines]
    split
    · rw [ih]
    · rw [hfirst, hothers]
      rfl

/-- No line holds a line feed. -/
theorem newline_not_mem (text : List Char) : ∀ line ∈ lines text, '\n' ∉ line := by
  induction text with
  | nil => simp [lines, physicalLines]
  | cons c cs ih =>
    unfold lines
    rw [physicalLines_cons]
    split
    · intro line hline
      rcases List.mem_cons.mp hline with rfl | hline
      · exact List.not_mem_nil
      · exact ih line hline
    · next hc =>
      obtain ⟨hfirst, hothers⟩ := List.forall_mem_cons.mp ih
      refine List.forall_mem_cons.mpr ⟨?_, hothers⟩
      simpa [Ne.symm hc] using hfirst

/-- A line without the carriage returns at its end. -/
def trimReturns (line : List Char) : List Char := dropWhileEnd (· = '\r') line

theorem trimReturns_cons (c : Char) (cs : List Char) :
    trimReturns (c :: cs) =
      if trimReturns cs = [] ∧ c = '\r' then [] else c :: trimReturns cs := by
  unfold trimReturns dropWhileEnd
  rw [List.reverse_cons, List.dropWhile_append]
  by_cases h : (cs.reverse.dropWhile (· = '\r')).isEmpty = true
  · rw [if_pos h, List.isEmpty_iff.mp h]
    by_cases hc : c = '\r' <;> simp [hc]
  · rw [if_neg h, if_neg (by simpa using fun hnil _ => h (by simpa using hnil))]
    simp

/-- Before the end of a line there are only carriage returns. -/
theorem trimReturns_of_endsLine {text : List Char} (h : endsLine text = true) :
    trimReturns (physicalLines text).1 = [] := by
  induction text with
  | nil => cases h
  | cons c cs ih =>
    rw [physicalLines_cons]
    split
    · rfl
    · next hc =>
      unfold endsLine at h ih
      rw [List.dropWhile_cons] at h
      split at h
      · next hreturn =>
        rw [trimReturns_cons, if_pos ⟨ih h, by simpa using hreturn⟩]
      · exact absurd (by simpa using h) hc

section Line

variable {line : List Char} (hline : '\n' ∉ line)
include hline

theorem plainFrom_comment : plainFrom .comment line = [] := by
  induction line with
  | nil => rfl
  | cons c cs ih =>
    obtain ⟨hc, hcs⟩ : '\n' ≠ c ∧ '\n' ∉ cs := by simpa using hline
    unfold plainFrom
    rw [if_pos (by simp [Ne.symm hc])]
    exact ih hcs

theorem endsLine_of_line : endsLine line = false := by
  induction line with
  | nil => rfl
  | cons c cs ih =>
    obtain ⟨hc, hcs⟩ : '\n' ≠ c ∧ '\n' ∉ cs := by simpa using hline
    unfold endsLine at ih ⊢
    rw [List.dropWhile_cons]
    split
    · exact ih hcs
    · simp [Ne.symm hc]

/-- Before a comment every character of a line is kept. -/
theorem plainFrom_cons {p : Place} (hp : p ≠ .comment) (c : Char) :
    plainFrom p (c :: line) =
      (if p = .code then c.toUpper else c) :: plainFrom (p.next c) line := by
  rw [plainFrom, if_neg (by simp [endsLine_of_line hline, hp])]

end Line

theorem not_mem_trimReturns {line : List Char} (h : '\n' ∉ line) : '\n' ∉ trimReturns line :=
  fun hmem => h (List.mem_reverse.mp
    ((List.dropWhile_sublist _).subset (List.mem_reverse.mp hmem)))

theorem plainFrom_eq_nil_iff {p : Place} {line : List Char} (hline : '\n' ∉ line)
    (hp : p ≠ .comment) : plainFrom p line = [] ↔ line = [] := by
  cases line with
  | nil => exact ⟨fun _ => rfl, fun _ => rfl⟩
  | cons c cs =>
    rw [plainFrom_cons (fun h => hline (List.mem_cons_of_mem _ h)) hp]
    simp

/-- One more character in front of a line that is trimmed. -/
theorem trimReturns_plainFrom {p : Place} {c : Char} {line rest : List Char}
    (hline : '\n' ∉ line) (hc : c ≠ '\n') (hp : p ≠ .comment)
    (h : trimReturns rest = plainFrom (p.next c) (trimReturns line)) :
    trimReturns ((if p = .code then c.toUpper else c) :: rest) =
      plainFrom p (trimReturns (c :: line)) := by
  have hreturn : (if p = .code then c.toUpper else c) = '\r' ↔ c = '\r' := by
    split
    · exact (classes_toUpper c).2.2 '\r' (by decide)
    · exact Iff.rfl
  have hnext : c = '\r' → p.next c ≠ .comment := by
    rintro rfl
    revert hp
    cases p <;> decide
  rw [trimReturns_cons, trimReturns_cons, h]
  simp only [hreturn]
  by_cases hdrop : trimReturns line = [] ∧ c = '\r'
  · rw [hdrop.1, if_pos ⟨rfl, hdrop.2⟩, if_pos ⟨rfl, hdrop.2⟩]
    rfl
  · have hkeep : ¬ (plainFrom (p.next c) (trimReturns line) = [] ∧ c = '\r') := fun hboth =>
      hdrop ⟨(plainFrom_eq_nil_iff (not_mem_trimReturns hline) (hnext hboth.2)).mp hboth.1,
        hboth.2⟩
    rw [if_neg hdrop, if_neg hkeep, plainFrom_cons (not_mem_trimReturns hline) hp]

/-- **The lines of the plain text are the plain lines**, once their ends are trimmed. By induction
on the text; a carriage return that is left out stands before others at most. -/
theorem physicalLines_plainFrom (p : Place) (text : List Char) :
    trimReturns (physicalLines (plainFrom p text)).1 =
        plainFrom p (trimReturns (physicalLines text).1) ∧
      (physicalLines (plainFrom p text)).2.map trimReturns =
        (physicalLines text).2.map fun line => plainFrom .code (trimReturns line) := by
  induction text generalizing p with
  | nil => exact ⟨rfl, rfl⟩
  | cons c cs ih =>
    have hlines := newline_not_mem cs
    obtain ⟨hfirst, hothers⟩ := List.forall_mem_cons.mp hlines
    by_cases hc : c = '\n'
    · subst hc
      have hplain : plainFrom p ('\n' :: cs) = '\n' :: plainFrom .code cs := by
        rw [plainFrom, if_neg (by simp)]
        cases p <;> rfl
      rw [hplain, physicalLines_cons, physicalLines_cons, if_pos rfl, if_pos rfl]
      exact ⟨rfl, List.cons_eq_cons.mpr (ih .code)⟩
    · rw [physicalLines_cons c cs, if_neg hc, plainFrom]
      split
      · next hdrop =>
        refine ⟨?_, (ih p).2⟩
        rw [(ih p).1]
        rcases Bool.or_eq_true_iff.mp hdrop with hreturn | hcomment
        · -- a carriage return before the end of the line
          obtain ⟨hreturn, hend⟩ := Bool.and_eq_true_iff.mp hreturn
          rw [trimReturns_cons, if_pos ⟨trimReturns_of_endsLine hend, by simpa using hreturn⟩,
            trimReturns_of_endsLine hend]
        · obtain rfl : p = .comment := by simpa [hc] using hcomment
          have hnot : '\n' ∉ c :: (physicalLines cs).1 := by
            simpa [Ne.symm hc] using hfirst
          rw [plainFrom_comment (not_mem_trimReturns hfirst),
            plainFrom_comment (not_mem_trimReturns hnot)]
      · next hkeep =>
        have hp : p ≠ .comment := fun hp => hkeep (by simp [hp, hc])
        have hcapital : (if p = .code then c.toUpper else c) ≠ '\n' := by
          split
          · exact fun h => hc (((classes_toUpper c).2.2 '\n' (by decide)).mp h)
          · exact hc
        rw [physicalLines_cons, if_neg hcapital]
        exact ⟨trimReturns_plainFrom hfirst hc hp (ih _).1, (ih _).2⟩

/-! ### Statements -/

/-- A line in ASCII capitals outside its literals. -/
def capitalsFrom (inside : Bool) : List Char → List Char
  | [] => []
  | c :: cs =>
    (if inside then c else c.toUpper) :: capitalsFrom (if c = quote then !inside else inside) cs

section Capitals

/-- Dropping comments. -/
theorem uncommentedFrom_plainFrom (inside : Bool) {line : List Char} (hline : '\n' ∉ line) :
    uncommentedFrom inside (plainFrom (if inside then .literal else .code) line) =
      capitalsFrom inside (uncommentedFrom inside line) := by
  induction line generalizing inside with
  | nil => rfl
  | cons c cs ih =>
    obtain ⟨hc, hcs⟩ : '\n' ≠ c ∧ '\n' ∉ cs := by simpa using hline
    obtain ⟨-, -, hsame⟩ := classes_toUpper c
    have hquote := hsame quote (by decide)
    have hmark := hsame '#' (by decide)
    rw [plainFrom_cons hcs (by cases inside <;> decide)]
    by_cases hq : c = quote
    · subst hq
      cases inside with
      | false => exact congrArg (quote :: ·) (ih true hcs)
      | true => exact congrArg (quote :: ·) (ih false hcs)
    · cases inside with
      | true =>
        have hnext : Place.next .literal c = .literal := by simp [Place.next, Ne.symm hc, hq]
        simpa [uncommentedFrom, capitalsFrom, hq, hnext] using ih true hcs
      | false =>
        by_cases hm : c = '#'
        · subst hm
          rfl
        · have hnext : Place.next .code c = .code := by simp [Place.next, Ne.symm hc, hq, hm]
          simpa [uncommentedFrom, capitalsFrom, hq, hm, hnext, hquote, hmark] using ih false hcs

/-- Dividing at semicolons; behind one the line stands outside literals. -/
theorem piecesFrom_capitalsFrom (inside : Bool) (line : List Char) :
    piecesFrom inside (capitalsFrom inside line) =
      (capitalsFrom inside (piecesFrom inside line).1,
        (piecesFrom inside line).2.map (capitalsFrom false)) := by
  induction line generalizing inside with
  | nil => rfl
  | cons c cs ih =>
    obtain ⟨-, -, hsame⟩ := classes_toUpper c
    have hquote := hsame quote (by decide)
    have hsemicolon := hsame ';' (by decide)
    cases inside with
    | true =>
      simp only [capitalsFrom, piecesFrom, Bool.not_true, if_true, Bool.and_false, ih]
      simp [capitalsFrom]
    | false =>
      simp only [capitalsFrom, piecesFrom, hquote, hsemicolon, Bool.not_false, Bool.and_true, ih,
        Bool.false_eq_true, if_false]
      by_cases hs : c = ';'
      · subst hs
        rfl
      · simp [capitalsFrom, hs]

theorem allBlank_capitalsFrom (inside : Bool) (line : List Char) :
    allBlank (capitalsFrom inside line) = allBlank line := by
  induction line generalizing inside with
  | nil => rfl
  | cons c cs ih =>
    have hblank : isBlank (if inside then c else c.toUpper) = isBlank c := by
      split
      · rfl
      · exact (classes_toUpper c).1
    unfold allBlank at ih ⊢
    rw [capitalsFrom, List.all_cons, List.all_cons, hblank, ih]

theorem foldFrom_capitalsFrom (inside : Bool) (line : List Char) :
    foldFrom inside (capitalsFrom inside line) = foldFrom inside line := by
  induction line generalizing inside with
  | nil => rfl
  | cons c cs ih =>
    obtain ⟨-, hcapitals, hsame⟩ := classes_toUpper c
    have hquote := hsame quote (by decide)
    by_cases hq : c = quote
    · subst hq
      cases inside with
      | false => exact congrArg (quote :: ·) (ih true)
      | true => exact congrArg (quote :: ·) (ih false)
    · cases inside <;> simp [capitalsFrom, foldFrom, hq, hquote, hcapitals, ih]

/-- The statements of a line in capitals, folded. -/
theorem splitStatements_capitalsFrom (line : List Char) :
    (splitStatements (capitalsFrom false line)).map foldCase =
      (splitStatements line).map foldCase := by
  have hfold : ∀ piece, foldCase (capitalsFrom false piece) = foldCase piece :=
    foldFrom_capitalsFrom false
  unfold splitStatements
  rw [piecesFrom_capitalsFrom]
  obtain ⟨first, others⟩ := piecesFrom false line
  cases others with
  | nil => exact congrArg ([·]) (hfold first)
  | cons other others =>
    have hblank : (fun piece => !allBlank piece) ∘ capitalsFrom false =
        fun piece => !allBlank piece :=
      funext fun piece => congrArg not (allBlank_capitalsFrom false piece)
    show (((first :: other :: others).map (capitalsFrom false)).filter _).map foldCase = _
    rw [List.filter_map, hblank, List.map_map]
    exact List.map_congr_left fun piece _ => hfold piece

end Capitals

/-- The statements of a line and of the plain line. -/
theorem lineStatements_plain {line line' : List Char} (hline : '\n' ∉ line)
    (h : trimReturns line' = plainFrom .code (trimReturns line)) :
    lineStatements line' = lineStatements line := by
  have hcode := uncommentedFrom_plainFrom false (not_mem_trimReturns hline)
  show (splitStatements (uncommentedFrom false (trimReturns line'))).map foldCase =
    (splitStatements (uncommentedFrom false (trimReturns line))).map foldCase
  rw [h, ← splitStatements_capitalsFrom (uncommentedFrom false (trimReturns line)), ← hcode]
  rfl

/-- **The statements of the lines of a text** are those of the plain text. -/
theorem lineStatements_plainFrom (text : List Char) :
    (lines (plainFrom .code text)).flatMap lineStatements =
      (lines text).flatMap lineStatements := by
  obtain ⟨hfirst, hothers⟩ := physicalLines_plainFrom .code text
  obtain ⟨hline, hlines⟩ := List.forall_mem_cons.mp (newline_not_mem text)
  unfold lines
  rw [List.flatMap_cons, List.flatMap_cons, lineStatements_plain hline hfirst]
  congr 1
  generalize (physicalLines text).2 = ls at hothers hlines
  generalize (physicalLines (plainFrom .code text)).2 = ls' at hothers
  induction ls generalizing ls' with
  | nil => rw [List.map_eq_nil_iff.mp hothers]
  | cons l ls ih =>
    obtain ⟨l', ls', rfl, hl, hls⟩ := List.map_eq_cons_iff.mp hothers
    obtain ⟨hline, hlines⟩ := List.forall_mem_cons.mp hlines
    rw [List.flatMap_cons, List.flatMap_cons, lineStatements_plain hline hl, ih hlines ls' hls]

theorem plainFrom_code_eq_nil_iff (text : List Char) : plainFrom .code text = [] ↔ text = [] := by
  induction text with
  | nil => exact ⟨fun _ => rfl, fun _ => rfl⟩
  | cons c cs ih =>
    rw [plainFrom]
    split
    · next hdrop =>
      -- what follows a carriage return that is left out is not the end of the text
      have hend : endsLine cs = true := by simpa using (by simpa using hdrop : _ ∧ _).2
      have hcs : cs ≠ [] := by
        rintro rfl
        cases hend
      simp [ih, hcs]
    · simp

end Text

/-! ### Sources -/

open Text

theorem toList_joinTexts_cons (text next : String) (texts : List String) :
    (Prepared.joinTexts (text :: next :: texts)).toList =
      text.toList ++ '\n' :: (Prepared.joinTexts (next :: texts)).toList := by
  simp [Prepared.joinTexts, String.toList_intercalate]

/-- The lines of texts one below the other. -/
theorem lines_joinTexts (text : String) (texts : List String) :
    lines (Prepared.joinTexts (text :: texts)).toList =
      (text :: texts).flatMap fun text => lines text.toList := by
  induction texts generalizing text with
  | nil => simp [Prepared.joinTexts]
  | cons next texts ih =>
    rw [toList_joinTexts_cons, lines_append, ih]
    rfl

/-- The statements of texts one below the other are those of the plain texts. -/
theorem statements_joinTexts_plain (texts : List String) :
    statements (Prepared.joinTexts (texts.map plain)).toList =
      statements (Prepared.joinTexts texts).toList := by
  cases texts with
  | nil => rfl
  | cons text texts =>
    have hempty : (Prepared.joinTexts ((text :: texts).map plain)).toList.isEmpty =
        (Prepared.joinTexts (text :: texts)).toList.isEmpty := by
      cases texts with
      | nil =>
        rw [Bool.eq_iff_iff]
        simpa [Prepared.joinTexts, plain] using plainFrom_code_eq_nil_iff text.toList
      | cons next texts =>
        have hnonempty : ∀ cs ds : List Char, (cs ++ '\n' :: ds).isEmpty = false := by
          intro cs ds
          cases cs <;> rfl
        rw [List.map_cons, List.map_cons, toList_joinTexts_cons, toList_joinTexts_cons, hnonempty,
          hnonempty]
    have hlines : ∀ text : String, (lines (plain text).toList).flatMap lineStatements =
        (lines text.toList).flatMap lineStatements := by
      intro text
      unfold plain
      rw [String.toList_ofList, lineStatements_plainFrom]
    show (if _ then [] else (lines _).flatMap lineStatements) =
      if _ then [] else (lines _).flatMap lineStatements
    rw [hempty, List.map_cons, lines_joinTexts, lines_joinTexts, List.flatMap_assoc,
      List.flatMap_assoc, ← List.map_cons, List.flatMap_map]
    simp only [hlines]

namespace Sources

/-- **Sources without the spelling of their texts.** -/
def plain (sources : Sources) : Sources :=
  ⟨sources.entries.map fun e => (e.1, Text.plain e.2)⟩

theorem preStart_plain (sources : Sources) :
    sources.plain.preStart = sources.preStart.map Text.plain := by
  simp [plain, preStart, List.filter_map, Function.comp_def]

theorem postStart_plain (sources : Sources) :
    sources.plain.postStart = sources.postStart.map Text.plain := by
  simp [plain, postStart, List.filter_map, Function.comp_def]

/-- The lines of sources are those of the plain sources. -/
theorem joinedLines_plain (sources : Sources) :
    Prepared.joinedLines (Prepared.joinTexts sources.plain.preStart)
        (Prepared.joinTexts sources.plain.postStart) =
      Prepared.joinedLines (Prepared.joinTexts sources.preStart)
        (Prepared.joinTexts sources.postStart) := by
  unfold Prepared.joinedLines
  rw [preStart_plain, postStart_plain, statements_joinTexts_plain, statements_joinTexts_plain]

end Sources

/-! ### Scripts -/

namespace Script

/-- The script without the texts it was compiled from. -/
def withoutTexts (script : Script) : Script :=
  { script with preStartText := "", postStartText := "", rawText := "" }

/-- **The spelling of the sources does not matter.** Sources that differ only in the case of ASCII
letters outside string literals, in what comments say and in carriage returns before line feeds
compile to the same script but for its texts, or to the very same fault. -/
theorem compile_of_plain_eq (registry : Registry) {sources sources' : Sources}
    (h : sources.plain = sources'.plain) :
    (compile registry sources).map withoutTexts = (compile registry sources').map withoutTexts := by
  have hlines := sources.joinedLines_plain
  rw [h, sources'.joinedLines_plain] at hlines
  unfold compile Prepared.ofSources
  dsimp only [bind, Except.bind]
  rw [hlines]
  generalize Prepared.joinedLines _ _ = joined
  cases takeLabels ⟨Table.empty, none⟩ 0 joined.1 with
  | error f => rfl
  | ok read =>
    unfold ofPrepared
    dsimp only [pure, Except.pure, bind, Except.bind]
    cases compileLines registry 0 read.1 <;> rfl

/-! ### An example -/

/-- A small script in small letters, with a comment and line ends of two characters. -/
def carelessSources : Sources :=
  ⟨[("main", "[pay]: set: gold = \"a few\" # Coins\r\nreturn: gold")]⟩

/-- The same script in capitals. -/
def carefulSources : Sources :=
  ⟨[("main", "[PAY]: SET: GOLD = \"a few\" #\nRETURN: GOLD")]⟩

theorem compile_careless :
    carelessSources.plain = carefulSources.plain ∧
      (compile Registry.builtin carelessSources).map withoutTexts =
        (compile Registry.builtin carefulSources).map withoutTexts := by
  have hplain : carelessSources.plain.entries = carefulSources.plain.entries := by decide +kernel
  have hplain : carelessSources.plain = carefulSources.plain := congrArg Table.mk hplain
  exact ⟨hplain, compile_of_plain_eq Registry.builtin hplain⟩

end Script

end StageScript
