import StageScript.Proofs.Grammar.WellFormed
import StageScript.Script

/-!
# The labels of a script

A label that is written in front of a line is kept in two tables of the compiled script: the labels
with their lines, and the lines with their labels. `START` stands in the first table whether it is
written or not, and without being written it may share its line with another label, which then
takes its place in the second table.

What is written is said of the lines before the labels are taken off (`Sources.labelOn?`). The
first table then holds just these labels, each on its own line, and `START`
(`Prepared.LabelsOf`); it keeps its entries in order (`Table.Ordered`), so that what is
listed and what is found are the same. The second table is made from the first entry by entry
(`Notes`). That the two fit together is put down in `Script.Indexed` and holds of every script that
compiles (`Script.compile_indexed`).
-/

namespace StageScript

/-! ### Tables in order -/

namespace Table

variable {κ α : Type}

/-- **The keys of the table increase.** -/
def Ordered [LT κ] (t : Table κ α) : Prop := t.entries.Pairwise fun e e' => e.1 < e'.1

variable [DecidableEq κ] [LT κ] [LE κ] [Std.LawfulOrderLT κ]

/-- In a table in order, what is found is what is listed. -/
theorem Ordered.get?_eq_some_iff {t : Table κ α} (h : t.Ordered) {key : κ} {value : α} :
    t.get? key = some value ↔ (key, value) ∈ t.entries := by
  refine ⟨mem_of_findIn, ?_⟩
  obtain ⟨es⟩ := t
  show _ → findIn key es = some value
  intro hmem
  induction es with
  | nil => cases hmem
  | cons e es ih =>
    obtain ⟨hfirst, hrest⟩ := List.pairwise_cons.mp h
    obtain ⟨k, v⟩ := e
    unfold findIn
    rcases List.mem_cons.mp hmem with heq | hmem
    · cases heq
      rw [if_pos rfl]
    · have hne : k ≠ key := fun heq => Std.lt_irrefl (heq ▸ hfirst _ hmem)
      rw [if_neg hne]
      exact ih hrest hmem

variable [DecidableLT κ]

omit [LE κ] [Std.LawfulOrderLT κ] in
theorem fst_of_mem_insertIn {key : κ} {value : α} {es : List (κ × α)} {e : κ × α}
    (h : e ∈ insertIn key value es) : e.1 = key ∨ e ∈ es := by
  induction es with
  | nil => exact .inl (congrArg Prod.fst (List.mem_singleton.mp h))
  | cons e' es ih =>
    obtain ⟨k, v⟩ := e'
    unfold insertIn at h
    split at h
    · rcases List.mem_cons.mp h with rfl | h
      · exact .inl rfl
      · exact .inr (List.mem_cons_of_mem _ h)
    · split at h
      · rcases List.mem_cons.mp h with rfl | h
        · exact .inl rfl
        · exact .inr h
      · rcases List.mem_cons.mp h with rfl | h
        · exact .inr List.mem_cons_self
        · exact (ih h).imp_right (List.mem_cons_of_mem _)

/-- Setting a key keeps the order. -/
theorem Ordered.insert [Std.IsLinearOrder κ] {t : Table κ α} (h : t.Ordered) (key : κ) (value : α) :
    (t.insert key value).Ordered := by
  obtain ⟨es⟩ := t
  show (insertIn key value es).Pairwise _
  induction es with
  | nil => exact List.pairwise_singleton _ _
  | cons e es ih =>
    obtain ⟨k, v⟩ := e
    obtain ⟨hfirst, hrest⟩ := List.pairwise_cons.mp h
    unfold insertIn
    split
    · next hk =>
      subst hk
      exact List.pairwise_cons.mpr ⟨hfirst, hrest⟩
    · next hne =>
      split
      · next hlt =>
        refine List.pairwise_cons.mpr ⟨fun e' he' => ?_, h⟩
        rcases List.mem_cons.mp he' with rfl | he'
        · exact hlt
        · exact Std.lt_trans hlt (hfirst e' he')
      · next hnlt =>
        have hlt : k < key := by
          rcases Std.lt_trichotomy k key with hlt | heq | hgt
          · exact hlt
          · exact absurd heq hne
          · exact absurd hgt hnlt
        refine List.pairwise_cons.mpr ⟨fun e' he' => ?_, ih hrest⟩
        rcases fst_of_mem_insertIn he' with heq | he'
        · exact heq ▸ hlt
        · exact hfirst e' he'

end Table

/-! ### Labels that are written -/

/-- The label in front of a line of text, if it has one. -/
def labelOf? (text : List Char) : Option String :=
  match LabelLine.ofLine? text 0 with
  | .ok (some label) => some label.name
  | _ => none

/-- The number of a line matters only to the faults. -/
theorem ofLine?_eq_ok {text : List Char} {index : Nat} {label : Option LabelLine}
    (h : LabelLine.ofLine? text index = .ok label) (other : Nat) :
    LabelLine.ofLine? text other = .ok label := by
  unfold LabelLine.ofLine? at h ⊢
  dsimp only at h ⊢
  split at h
  · exact h
  · split at h
    · cases h
    · split at h
      · cases h
      · next hname hreserved =>
        rw [if_neg hname, if_neg hreserved]
        exact h

theorem labelOf?_of_ok {text : List Char} {index : Nat} {label : Option LabelLine}
    (h : LabelLine.ofLine? text index = .ok label) : labelOf? text = label.map (·.name) := by
  unfold labelOf?
  rw [ofLine?_eq_ok h 0]
  cases label <;> rfl

/-- What a label looks like. -/
theorem isLabelName_of_labelOf? {text : List Char} {name : String} (h : labelOf? text = some name) :
    LabelLine.isLabelName name.toList = true ∧ (name = startLabel ∨ isReserved name = false) := by
  unfold labelOf? LabelLine.ofLine? at h
  dsimp only at h
  split at h
  · next label hlabel =>
    split at hlabel
    · cases hlabel
    · split at hlabel
      · cases hlabel
      · split at hlabel
        · cases hlabel
        · next hname hreserved =>
          cases hlabel
          cases h
          exact ⟨by simpa using hname, Decidable.or_iff_not_imp_left.mpr fun hstart => by
            simpa [hstart] using hreserved⟩
  · cases h

namespace LabelIndex

/-- The labels found so far are in order, and the start is that of the label `START`. -/
structure Sound (found : LabelIndex) : Prop where
  ordered : found.labels.Ordered
  start_eq : found.start = found.labels.get? startLabel

/-- A label is added only if it is new. -/
theorem Sound.add {found found' : LabelIndex} (h : found.Sound) {name : String} {index : Nat}
    (hadd : found.add name index = .ok found') :
    found.labels.get? name = none ∧ found'.labels = found.labels.insert name index ∧
      found'.Sound := by
  unfold LabelIndex.add at hadd
  split at hadd
  · next hname =>
    subst hname
    split at hadd
    · cases hadd
    · next hstart =>
      cases hadd
      refine ⟨?_, rfl, h.ordered.insert _ _, ?_⟩
      · rw [← h.start_eq]
        simpa using hstart
      · rw [Table.get?_insert, if_pos rfl]
  · next hname =>
    split at hadd
    · cases hadd
    · next hnew =>
      cases hadd
      refine ⟨by simpa [Table.contains] using hnew, rfl, h.ordered.insert _ _, ?_⟩
      rw [Table.get?_insert, if_neg (Ne.symm hname)]
      exact h.start_eq

end LabelIndex

/-- A label on some line is one on the first or one on the others, counted from the line behind. -/
theorem exists_labelOf?_cons {text : List Char} {lines : List (List Char)} {index line : Nat}
    {name : String} : (∃ i, (text :: lines)[i]?.bind labelOf? = some name ∧ line = index + i) ↔
      (labelOf? text = some name ∧ line = index) ∨
        ∃ i, lines[i]?.bind labelOf? = some name ∧ line = index + 1 + i := by
  constructor
  · rintro ⟨i, hi, rfl⟩
    cases i with
    | zero => exact .inl ⟨by simpa using hi, rfl⟩
    | succ i => exact .inr ⟨i, by simpa using hi, by omega⟩
  · rintro (⟨hi, rfl⟩ | ⟨i, hi, rfl⟩)
    · exact ⟨0, by simpa using hi, rfl⟩
    · exact ⟨i + 1, by simpa using hi, by omega⟩

/-- **The labels that are taken off the lines are added to those found before**, each on its line.
By induction on the lines; a label that is found once more stops the whole. -/
theorem takeLabels_eq_ok {lines commands : List (List Char)} {found found' : LabelIndex}
    {index : Nat} (h : takeLabels found index lines = .ok (commands, found'))
    (hfound : found.Sound) :
    commands.length = lines.length ∧ found'.Sound ∧
      ∀ name line, found'.labels.get? name = some line ↔
        found.labels.get? name = some line ∨
          ∃ i, lines[i]?.bind labelOf? = some name ∧ line = index + i := by
  induction lines generalizing commands found index with
  | nil =>
    cases h
    exact ⟨rfl, hfound, fun name line => by simp⟩
  | cons text lines ih =>
    obtain ⟨label, hlabel, h⟩ := exists_of_bind h
    have htext := labelOf?_of_ok hlabel
    cases label with
    | none =>
      obtain ⟨⟨rest, last⟩, hrest, h⟩ := exists_of_bind h
      cases h
      obtain ⟨hlength, hsound, hget⟩ := ih hrest hfound
      refine ⟨by simp [hlength], hsound, fun name line => ?_⟩
      rw [hget, exists_labelOf?_cons, htext]
      simp
    | some label =>
      obtain ⟨next, hadd, h⟩ := exists_of_bind h
      obtain ⟨⟨rest, last⟩, hrest, h⟩ := exists_of_bind h
      cases h
      obtain ⟨hnew, hlabels, hnext⟩ := hfound.add hadd
      obtain ⟨hlength, hsound, hget⟩ := ih hrest hnext
      refine ⟨by simp [hlength], hsound, fun name line => ?_⟩
      rw [hget, exists_labelOf?_cons, htext, hlabels, Table.get?_insert]
      by_cases hname : name = label.name
      · subst hname
        simp [hnew, eq_comm]
      · simp [hname, Ne.symm hname]

/-- **Induction along lines as continuations are joined**: a first line takes the run behind it, and
it goes on with what is left. -/
theorem continuation_induction {P : List (List Char) → Prop} (nil : P [])
    (run : ∀ first lines, P (lines.dropWhile isContinuation) → P (first :: lines))
    (lines : List (List Char)) : P lines :=
  joinContinuations.induct P nil run lines

theorem joinContinuations_cons (first : List Char) (lines : List (List Char)) :
    joinContinuations (first :: lines) =
      (first ++ (lines.takeWhile isContinuation).flatMap continued) ::
        ((lines.takeWhile isContinuation).map fun _ => []) ++
          joinContinuations (lines.dropWhile isContinuation) := by
  rw [joinContinuations]

theorem length_joinContinuations (lines : List (List Char)) :
    (joinContinuations lines).length = lines.length := by
  induction lines using continuation_induction with
  | nil => rw [joinContinuations]
  | run first lines ih =>
    have hsplit := congrArg List.length
      (List.takeWhile_append_dropWhile (p := isContinuation) (l := lines))
    rw [List.length_append] at hsplit
    rw [joinContinuations_cons, List.cons_append, List.length_cons, List.length_append,
      List.length_map, ih, hsplit, List.length_cons]

namespace Sources

/-- The lines of the sources, with their labels still on them. -/
def lines (sources : Sources) : List (List Char) :=
  (Prepared.joinedLines (Prepared.joinTexts sources.preStart)
    (Prepared.joinTexts sources.postStart)).1

/-- The number of statements before the start. -/
def setupCount (sources : Sources) : Nat :=
  (statements (Prepared.joinTexts sources.preStart).toList).length

/-- **The label that is written on a line.** -/
def labelOn? (sources : Sources) (line : Nat) : Option String :=
  sources.lines[line]?.bind labelOf?

theorem setupCount_le_length_lines (sources : Sources) :
    sources.setupCount ≤ sources.lines.length := by
  unfold setupCount lines Prepared.joinedLines
  rw [length_joinContinuations, List.length_append]
  exact Nat.le_add_right _ _

theorem lt_length_of_labelOn? {sources : Sources} {line : Nat} {name : String}
    (h : sources.labelOn? line = some name) : line < sources.lines.length := by
  obtain ⟨text, htext, -⟩ := Option.bind_eq_some_iff.mp h
  exact (List.getElem?_eq_some_iff.mp htext).1

end Sources

namespace Prepared

variable {sources : Sources} {prepared : Prepared}

/-- **What preparing the sources does to labels.** The start is the line of a written `START`, or
else the first one behind the setup. -/
structure LabelsOf (sources : Sources) (prepared : Prepared) : Prop where
  length_lines : prepared.lines.length = sources.lines.length
  ordered : prepared.labels.Ordered
  start : prepared.labels.get? startLabel = some prepared.startLine
  written : ∀ {name}, name ≠ startLabel → ∀ line,
    prepared.labels.get? name = some line ↔ sources.labelOn? line = some name
  startLine_of_written : ∀ line, sources.labelOn? line = some startLabel →
    prepared.startLine = line
  startLine_of_unwritten : (∀ line, sources.labelOn? line ≠ some startLabel) →
    prepared.startLine = sources.setupCount

theorem labelsOf_ofSources (h : ofSources sources = .ok prepared) : prepared.LabelsOf sources := by
  obtain ⟨⟨commands, found⟩, htake, h⟩ := exists_of_bind h
  obtain ⟨hlength, hsound, hget⟩ := takeLabels_eq_ok htake ⟨List.Pairwise.nil, rfl⟩
  have hlabel : ∀ name line, found.labels.get? name = some line ↔
      sources.labelOn? line = some name := by
    intro name line
    rw [hget]
    constructor
    · rintro (hnone | ⟨i, hi, rfl⟩)
      · cases hnone
      · rw [Nat.zero_add]
        exact hi
    · exact fun hline => .inr ⟨line, hline, (Nat.zero_add line).symm⟩
  cases h
  refine ⟨hlength, hsound.ordered.insert _ _, ?_, fun hname line => ?_, fun line hline => ?_,
    fun hnone => ?_⟩
  · rw [Table.get?_insert, if_pos rfl]
  · rw [Table.get?_insert, if_neg hname, hlabel]
  · show found.start.getD _ = line
    rw [hsound.start_eq, (hlabel _ line).mpr hline]
    rfl
  · have hstart : found.labels.get? startLabel = none := by
      cases hget : found.labels.get? startLabel with
      | none => rfl
      | some line => exact absurd ((hlabel _ line).mp hget) (hnone line)
    show found.start.getD _ = sources.setupCount
    rw [hsound.start_eq, hstart]
    rfl

namespace LabelsOf

variable (h : prepared.LabelsOf sources)
include h

theorem startLine_le : prepared.startLine ≤ prepared.lines.length := by
  rw [h.length_lines]
  by_cases hwritten : ∃ line, sources.labelOn? line = some startLabel
  · obtain ⟨line, hline⟩ := hwritten
    rw [h.startLine_of_written line hline]
    exact Nat.le_of_lt (Sources.lt_length_of_labelOn? hline)
  · rw [h.startLine_of_unwritten fun line hline => hwritten ⟨line, hline⟩]
    exact sources.setupCount_le_length_lines

theorem one_on_line {name other : String} {line : Nat}
    (hname : prepared.labels.get? name = some line)
    (hother : prepared.labels.get? other = some line) (hn : name ≠ startLabel)
    (ho : other ≠ startLabel) : name = other :=
  Option.some.inj (((h.written hn line).mp hname).symm.trans ((h.written ho line).mp hother))

end LabelsOf

end Prepared

/-! ### Labels by line -/

namespace Script

/-- **The table of lines for some of the labels.** On each line the label is noted that is not
`START`, if there is one. -/
def Notes (es : List (String × Nat)) (byLine : Table Nat String) : Prop :=
  ∀ line name, byLine.get? line = some name ↔
    (name, line) ∈ es ∧ (name = startLabel → ∀ other, (other, line) ∈ es → other = startLabel)

/-- No two labels but `START` are on one line. -/
def Apart (es : List (String × Nat)) : Prop :=
  ∀ name other line, (name, line) ∈ es → (other, line) ∈ es → name ≠ startLabel →
    other ≠ startLabel → other = name

/-- A line of which nothing is noted has no label. -/
theorem Notes.not_mem {es : List (String × Nat)} {byLine : Table Nat String} (h : Notes es byLine)
    {line : Nat} (hline : byLine.get? line = none) (name : String) : (name, line) ∉ es := by
  intro hmem
  by_cases hother : ∃ other, (other, line) ∈ es ∧ other ≠ startLabel
  · obtain ⟨other, hother, hne⟩ := hother
    have := (h line other).mpr ⟨hother, fun heq => absurd heq hne⟩
    rw [hline] at this
    cases this
  · have hall : ∀ other, (other, line) ∈ es → other = startLabel := fun other ho =>
      Decidable.byContradiction fun hne => hother ⟨other, ho, hne⟩
    have := (h line name).mpr ⟨hmem, fun _ => hall⟩
    rw [hline] at this
    cases this

/-- What is noted on a line once one more label is noted. -/
theorem get?_noteLabel (byLine : Table Nat String) (name : String) (line place : Nat) :
    (noteLabel byLine (name, line)).get? place =
      if place = line then
        match byLine.get? line with
        | some current => some (if current = startLabel then name else current)
        | none => some name
      else byLine.get? place := by
  unfold noteLabel
  dsimp only
  cases hline : byLine.get? line with
  | none => rw [Table.get?_insert]
  | some current =>
    by_cases hcurrent : current = startLabel
    · simp only [hcurrent, if_true, Table.get?_insert]
    · simp only [hcurrent, if_false]
      split
      · next hplace => rw [hplace, hline]
      · rfl

/-- Noting one more label. -/
theorem Notes.noteLabel {es : List (String × Nat)} {byLine : Table Nat String}
    (h : Notes es byLine) {name : String} {line : Nat} (hapart : Apart (es ++ [(name, line)])) :
    Notes (es ++ [(name, line)]) (noteLabel byLine (name, line)) := by
  have hmem : ∀ other place, (other, place) ∈ es ++ [(name, line)] ↔
      (other, place) ∈ es ∨ other = name ∧ place = line := by simp
  intro place other
  rw [get?_noteLabel]
  by_cases hplace : place = line
  · subst hplace
    rw [if_pos rfl]
    cases hline : byLine.get? place with
    | none =>
      have hnone := h.not_mem hline
      simp only [hmem, hnone, false_or, and_true, Option.some.injEq]
      grind
    | some current =>
      obtain ⟨hcurrent, hstart⟩ := (h place current).mp hline
      have := hapart name current place ((hmem _ _).mpr (.inr ⟨rfl, rfl⟩))
        ((hmem _ _).mpr (.inl hcurrent))
      simp only [hmem, and_true, Option.some.injEq]
      have hother := h place other
      rw [hline] at hother
      grind
  · simp only [hmem, hplace, if_false, and_false, or_false]
    exact h place other

/-- Noting all labels, one after the other. -/
theorem Notes.foldl {es es' : List (String × Nat)} {byLine : Table Nat String}
    (h : Notes es byLine) (hapart : Apart (es ++ es')) :
    Notes (es ++ es') (es'.foldl Script.noteLabel byLine) := by
  induction es' generalizing es byLine with
  | nil =>
    rw [List.append_nil]
    exact h
  | cons e es' ih =>
    have hsplit : es ++ e :: es' = es ++ [e] ++ es' := by simp
    rw [hsplit] at hapart ⊢
    refine ih (h.noteLabel fun name other line hname hother => ?_) hapart
    exact hapart name other line (List.mem_append_left _ hname) (List.mem_append_left _ hother)

theorem notes_labelsByLine {labels : Table String Nat} (h : Apart labels.entries) :
    Notes labels.entries (labelsByLine labels) := by
  have hempty : Notes [] Table.empty := fun line name => by simp
  exact hempty.foldl h

/-! ### Both tables -/

/-- **The tables of labels of a script fit together.** -/
structure Indexed (script : Script) : Prop where
  lineOf?_start : script.lineOf? startLabel = some script.startLine
  startLine_le : script.startLine ≤ script.lineCount
  line_lt : ∀ {name line}, script.lineOf? name = some line → name ≠ startLabel →
    line < script.lineCount
  one_on_line : ∀ {name other line}, script.lineOf? name = some line →
    script.lineOf? other = some line → name ≠ startLabel → other ≠ startLabel → name = other
  not_reserved : ∀ {name line}, script.lineOf? name = some line → name ≠ startLabel →
    isReserved name = false
  lineOf?_of_labelAt? : ∀ {line name}, script.labelAt? line = some name →
    script.lineOf? name = some line
  labelAt?_of_lineOf? : ∀ {name line}, script.lineOf? name = some line → name ≠ startLabel →
    script.labelAt? line = some name
  labelAt?_startLine_iff : script.labelAt? script.startLine = some startLabel ↔
    ∀ name, name ≠ startLabel → script.lineOf? name ≠ some script.startLine
  labelAt?_isSome_iff : ∀ line, (script.labelAt? line).isSome = true ↔
    ∃ name, script.lineOf? name = some line
  command_lt : ∀ e ∈ script.commands.entries, e.1 < script.lineCount

theorem compileLines_lt {registry : Registry} {texts : List (List Char)} {index : Nat}
    {commands : List (Nat × Command)} (h : compileLines registry index texts = .ok commands) :
    ∀ e ∈ commands, e.1 < index + texts.length := by
  induction texts generalizing index commands with
  | nil =>
    cases h
    simp
  | cons text texts ih =>
    have hlength : index + (text :: texts).length = index + 1 + texts.length := by
      rw [List.length_cons]
      omega
    rw [hlength]
    unfold compileLines at h
    split at h
    · exact ih h
    · obtain ⟨c, -, h⟩ := exists_of_bind h
      obtain ⟨others, hothers, h⟩ := exists_of_bind h
      cases h
      exact List.forall_mem_cons.mpr ⟨by dsimp only; omega, ih hothers⟩

theorem mem_entries_of_labelsOf {sources : Sources} {prepared : Prepared}
    (h : prepared.LabelsOf sources) {name : String} {line : Nat} :
    (name, line) ∈ prepared.labels.entries ↔ prepared.labels.get? name = some line :=
  h.ordered.get?_eq_some_iff.symm

theorem apart_of_labelsOf {sources : Sources} {prepared : Prepared}
    (h : prepared.LabelsOf sources) : Apart prepared.labels.entries :=
  fun _ _ _ hname hother hn ho =>
    h.one_on_line ((mem_entries_of_labelsOf h).mp hother)
      ((mem_entries_of_labelsOf h).mp hname) ho hn

/-- The names of lines are read off the labels; `START` names its line only if no other label
does. -/
theorem labelsByLine_of_labelsOf {sources : Sources} {prepared : Prepared}
    (h : prepared.LabelsOf sources) (line : Nat) (name : String) :
    (labelsByLine prepared.labels).get? line = some name ↔
      prepared.labels.get? name = some line ∧ (name = startLabel →
        ∀ other, prepared.labels.get? other = some line → other = startLabel) := by
  rw [notes_labelsByLine (apart_of_labelsOf h) line name]
  simp only [mem_entries_of_labelsOf h]

theorem indexed_of_labelsOf {registry : Registry} {sources : Sources} {prepared : Prepared}
    {script : Script} (h : prepared.LabelsOf sources)
    (hscript : ofPrepared registry prepared = .ok script) : script.Indexed := by
  obtain ⟨commands, hcommands, hscript⟩ := exists_of_bind hscript
  cases hscript
  refine {
    lineOf?_start := h.start
    startLine_le := h.startLine_le
    line_lt := fun {name line} hline hname => ?_
    one_on_line := h.one_on_line
    not_reserved := fun {name line} hline hname => ?_
    lineOf?_of_labelAt? := fun {line name} hline =>
      ((labelsByLine_of_labelsOf h line name).mp hline).1
    labelAt?_of_lineOf? := fun {name line} hline hname =>
      (labelsByLine_of_labelsOf h line name).mpr ⟨hline, fun hstart => absurd hstart hname⟩
    labelAt?_startLine_iff := ?_
    labelAt?_isSome_iff := fun line => ?_
    command_lt := fun e he => ?_ }
  · show line < prepared.lines.length
    rw [h.length_lines]
    exact Sources.lt_length_of_labelOn? ((h.written hname line).mp hline)
  · obtain ⟨text, -, htext⟩ := Option.bind_eq_some_iff.mp ((h.written hname line).mp hline)
    exact (isLabelName_of_labelOf? htext).2.resolve_left hname
  · show (labelsByLine prepared.labels).get? prepared.startLine = _ ↔ _
    rw [labelsByLine_of_labelsOf h]
    constructor
    · exact fun hall name hname hline => hname (hall.2 rfl name hline)
    · exact fun hall => ⟨h.start, fun _ other hother =>
        Decidable.byContradiction fun hne => hall other hne hother⟩
  · show ((labelsByLine prepared.labels).get? line).isSome = true ↔
      ∃ name, prepared.labels.get? name = some line
    constructor
    · intro hsome
      obtain ⟨name, hname⟩ := Option.isSome_iff_exists.mp hsome
      exact ⟨name, ((labelsByLine_of_labelsOf h line name).mp hname).1⟩
    · rintro ⟨name, hname⟩
      cases hline : (labelsByLine prepared.labels).get? line with
      | some _ => rfl
      | none =>
        have hnone := (notes_labelsByLine (apart_of_labelsOf h)).not_mem hline name
        exact absurd ((mem_entries_of_labelsOf h).mpr hname) hnone
  · simpa using compileLines_lt hcommands e he

/-- **The tables of labels of a compiled script are consistent.** They fit together, and hold the
labels that are written: each label but `START` on the line that it is written on, and `START` on
its line if it is written, which then has no other label, or else on the first line behind the
setup. -/
theorem compile_indexed {registry : Registry} {sources : Sources} {script : Script}
    (h : compile registry sources = .ok script) :
    script.Indexed ∧
    (∀ name line, name ≠ startLabel →
      (script.lineOf? name = some line ↔ sources.labelOn? line = some name)) ∧
    (∀ line, sources.labelOn? line = some startLabel → script.startLine = line ∧
      ∀ name, name ≠ startLabel → script.lineOf? name ≠ some line) ∧
    ((∀ line, sources.labelOn? line ≠ some startLabel) →
      script.startLine = sources.setupCount) := by
  obtain ⟨prepared, hprepared, h⟩ := exists_of_bind h
  have hlabels := Prepared.labelsOf_ofSources hprepared
  have hindexed := indexed_of_labelsOf hlabels h
  obtain ⟨commands, -, h⟩ := exists_of_bind h
  cases h
  refine ⟨hindexed, fun name line hname => hlabels.written hname line, fun line hline => ?_,
    hlabels.startLine_of_unwritten⟩
  refine ⟨hlabels.startLine_of_written line hline, fun name hname hother => hname ?_⟩
  exact Option.some.inj (((hlabels.written hname line).mp hother).symm.trans hline)

/-! ### An example -/

/-- One line of setup, then a line with a label, on which the script starts. -/
def setupSources : Sources :=
  ⟨[("_setup", "set-for-world: gold = \"none\""), ("main", "[pay]: return: gold\n[x-it] end")]⟩

theorem compile_indexed_setup :
    ∃ script, compile Registry.builtin setupSources = .ok script ∧ script.Indexed ∧
      setupSources.labelOn? 1 = some "PAY" ∧ script.startLine = setupSources.setupCount ∧
      script.labelAt? script.startLine = some "PAY" := by
  have htables : (compile Registry.builtin setupSources).toOption.map
      (fun script => (script.startLine, script.labelAt? 1)) = some (1, some "PAY") := by
    decide +kernel
  cases hcompile : compile Registry.builtin setupSources with
  | error f =>
    rw [hcompile] at htables
    cases htables
  | ok script =>
    rw [hcompile] at htables
    obtain ⟨hstart, hlabel⟩ := Prod.mk.inj (Option.some.inj htables)
    have hindexed := (compile_indexed hcompile).1
    refine ⟨script, rfl, hindexed, ?_, hstart, hstart ▸ hlabel⟩
    have hline := hindexed.lineOf?_of_labelAt? hlabel
    exact ((compile_indexed hcompile).2.1 "PAY" 1 (by decide)).mp hline

end Script

end StageScript
