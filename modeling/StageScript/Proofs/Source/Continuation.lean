import StageScript.Proofs.Source.Labels

/-!
# Continuations

A line behind the first that starts with three dots continues the line before it (`Continues`).
Joining leaves an empty line in its place, and every other line is followed by what the run of
continuations behind it adds, at its own number (`getElem?_joinContinuations`). So the lines keep
their numbers.

Joining again changes nothing, unless a joined line is a continuation itself
(`joinContinuations_eq_self_iff`), as a blank line is that six dots follow.
-/

namespace StageScript

open Text

/-- The line continues another with this tail, which stands behind white space and three dots. -/
def ContinuesWith (line tail : List Char) : Prop :=
  ∃ blanks, (∀ c ∈ blanks, isBlank c = true) ∧ line = blanks ++ '.' :: '.' :: '.' :: tail

/-- What a continuation with this tail adds to the line before it. -/
def joinedTail (tail : List Char) : List Char := ' ' :: trim tail

/-- **A line that is a continuation**: it is not the first and starts with three dots. -/
def Continues (lines : List (List Char)) (i : Nat) : Prop :=
  0 < i ∧ ∃ line tail, lines[i]? = some line ∧ ContinuesWith line tail

/-- **The run of continuations** from a line on: the lines have these tails, and the one behind them
is no continuation. -/
structure RunFrom (lines : List (List Char)) (start : Nat) (tails : List (List Char)) : Prop where
  continues : ∀ j tail, tails[j]? = some tail →
    ∃ line, lines[start + j]? = some line ∧ ContinuesWith line tail
  maximal : ∀ line, lines[start + tails.length]? = some line → ∀ tail, ¬ ContinuesWith line tail

variable {lines : List (List Char)} {line tail : List Char} {i : Nat}

/-! ### One line -/

theorem ContinuesWith.trimStart_eq (h : ContinuesWith line tail) :
    trimStart line = continuationMark ++ tail := by
  obtain ⟨blanks, hblanks, rfl⟩ := h
  have hdot : isBlank '.' = false := by decide
  unfold trimStart
  rw [List.dropWhile_append_of_pos hblanks, List.dropWhile_cons_of_neg (by simp [hdot])]
  rfl

/-- What stands behind the dots of a continuation. -/
def tailOf (line : List Char) : List Char := (trimStart line).drop continuationMark.length

theorem continuesWith_tailOf (h : isContinuation line = true) :
    ContinuesWith line (tailOf line) := by
  obtain ⟨tail, htail⟩ := List.isPrefixOf_iff_prefix.mp h
  have hsplit : line.takeWhile isBlank ++ trimStart line = line := List.takeWhile_append_dropWhile
  refine ⟨line.takeWhile isBlank, List.all_eq_true.mp List.all_takeWhile, ?_⟩
  unfold tailOf
  rw [← htail, List.drop_left]
  exact (htail ▸ hsplit).symm

theorem isContinuation_iff : isContinuation line = true ↔ ∃ tail, ContinuesWith line tail := by
  refine ⟨fun h => ⟨_, continuesWith_tailOf h⟩, ?_⟩
  rintro ⟨tail, h⟩
  unfold isContinuation
  rw [h.trimStart_eq]
  exact List.isPrefixOf_iff_prefix.mpr (List.prefix_append _ _)

theorem ContinuesWith.ne_nil (h : ContinuesWith line tail) : line ≠ [] := by
  rintro rfl
  obtain ⟨blanks, -, hline⟩ := h
  simp at hline

theorem continues_iff (h : lines[i]? = some line) :
    Continues lines i ↔ 0 < i ∧ isContinuation line = true := by
  rw [isContinuation_iff]
  constructor
  · rintro ⟨hi, _, tail, hline, htail⟩
    cases h.symm.trans hline
    exact ⟨hi, tail, htail⟩
  · rintro ⟨hi, tail, htail⟩
    exact ⟨hi, line, tail, h, htail⟩

/-! ### All lines -/

/-- The lines behind a line that continue it. -/
def continuationsAfter (lines : List (List Char)) (i : Nat) : List (List Char) :=
  (lines.drop (i + 1)).takeWhile isContinuation

/-- Behind the run that continues the first line, a line is continued as it is in what is left. -/
theorem continuationsAfter_add (first : List Char) (lines : List (List Char)) (k : Nat) :
    continuationsAfter (first :: lines) ((lines.takeWhile isContinuation).length + k + 1) =
      continuationsAfter (lines.dropWhile isContinuation) k := by
  have hdrop : (lines.takeWhile isContinuation ++ lines.dropWhile isContinuation).drop
      ((lines.takeWhile isContinuation).length + (k + 1)) =
        (lines.dropWhile isContinuation).drop (k + 1) :=
    List.drop_length_add_append (k + 1)
  rw [List.takeWhile_append_dropWhile] at hdrop
  exact congrArg (List.takeWhile isContinuation) hdrop

/-- What is left behind a run of continuations does not start with one. -/
theorem isContinuation_of_dropWhile (h : (lines.dropWhile isContinuation)[0]? = some line) :
    isContinuation line = false := by
  have hnot := List.head?_dropWhile_not isContinuation lines
  rwa [List.head?_eq_getElem?, h] at hnot

/-- **Each line keeps its number when continuations are joined**: it is left empty, or it goes on
with what those behind it add. -/
theorem getElem?_joinContinuations (h : lines[i]? = some line) :
    (joinContinuations lines)[i]? = some (if 0 < i ∧ isContinuation line = true then []
      else line ++ (continuationsAfter lines i).flatMap continued) := by
  induction lines using continuation_induction generalizing i with
  | nil => cases h
  | run first lines ih =>
    have hsplit : lines.takeWhile isContinuation ++ lines.dropWhile isContinuation = lines :=
      List.takeWhile_append_dropWhile
    rw [joinContinuations_cons, List.cons_append]
    cases i with
    | zero =>
      cases h
      rfl
    | succ i =>
      have hline : (lines.takeWhile isContinuation ++ lines.dropWhile isContinuation)[i]? =
          some line := by
        rw [hsplit]
        exact h
      rw [List.getElem?_cons_succ]
      rcases Nat.lt_or_ge i (lines.takeWhile isContinuation).length with hi | hi
      · -- the line is one of the run behind the first
        have hmem : line ∈ lines.takeWhile isContinuation := by
          rw [List.getElem?_append_left hi] at hline
          exact List.mem_of_getElem? hline
        have hcontinues : isContinuation line = true :=
          List.all_eq_true.mp List.all_takeWhile line hmem
        rw [List.getElem?_append_left (by simpa using hi), if_pos ⟨Nat.succ_pos i, hcontinues⟩]
        simp [hi]
      · -- the line is one of those left behind the run
        obtain ⟨k, rfl⟩ := Nat.exists_eq_add_of_le hi
        have hk : (lines.dropWhile isContinuation)[k]? = some line := by
          rw [List.getElem?_append_right hi, Nat.add_sub_cancel_left] at hline
          exact hline
        have hpos : isContinuation line = true → 0 < k := by
          intro hcontinues
          refine Nat.pos_of_ne_zero ?_
          rintro rfl
          cases (isContinuation_of_dropWhile hk).symm.trans hcontinues
        have hempty : (0 < k ∧ isContinuation line = true) ↔
            0 < (lines.takeWhile isContinuation).length + k + 1 ∧ isContinuation line = true :=
          ⟨fun h => ⟨Nat.succ_pos _, h.2⟩, fun h => ⟨hpos h.2, h.2⟩⟩
        rw [List.getElem?_append_right (by simp), List.length_map, Nat.add_sub_cancel_left, ih hk,
          continuationsAfter_add]
        simp only [hempty]

theorem joinContinuations_of_continues (h : Continues lines i) :
    (joinContinuations lines)[i]? = some [] := by
  obtain ⟨hi, line, tail, hline, htail⟩ := h
  rw [getElem?_joinContinuations hline, if_pos ⟨hi, isContinuation_iff.mpr ⟨tail, htail⟩⟩]

theorem joinContinuations_of_not_continues (h : lines[i]? = some line)
    (hcontinues : ¬ Continues lines i) :
    (joinContinuations lines)[i]? =
      some (line ++ (continuationsAfter lines i).flatMap continued) := by
  rw [getElem?_joinContinuations h, if_neg (mt (continues_iff h).mpr hcontinues)]

theorem getElem?_continuationsAfter {j : Nat}
    (h : (continuationsAfter lines i)[j]? = some line) :
    lines[i + 1 + j]? = some line ∧ isContinuation line = true := by
  refine ⟨?_, List.all_eq_true.mp List.all_takeWhile line (List.mem_of_getElem? h)⟩
  obtain ⟨others, hothers⟩ : continuationsAfter lines i <+: lines.drop (i + 1) :=
    List.takeWhile_prefix _
  have hj : j < (continuationsAfter lines i).length := (List.getElem?_eq_some_iff.mp h).1
  rw [← List.getElem?_drop, ← hothers, List.getElem?_append_left hj, h]

theorem isContinuation_behind
    (h : lines[i + 1 + (continuationsAfter lines i).length]? = some line) :
    isContinuation line = false := by
  have hsplit : continuationsAfter lines i ++ (lines.drop (i + 1)).dropWhile isContinuation =
      lines.drop (i + 1) := List.takeWhile_append_dropWhile
  rw [← List.getElem?_drop, ← hsplit, List.getElem?_append_right (Nat.le_refl _),
    Nat.sub_self] at h
  exact isContinuation_of_dropWhile h

/-- The lines that continue a line are the run behind it. -/
theorem exists_runFrom (lines : List (List Char)) (i : Nat) :
    ∃ tails, RunFrom lines (i + 1) tails ∧
      (continuationsAfter lines i).flatMap continued = tails.flatMap joinedTail := by
  refine ⟨(continuationsAfter lines i).map tailOf,
    ⟨fun j tail htail => ?_, fun line hline tail htail => ?_⟩, ?_⟩
  · rw [List.getElem?_map] at htail
    obtain ⟨line, hj, rfl⟩ := Option.map_eq_some_iff.mp htail
    obtain ⟨hline, hcontinues⟩ := getElem?_continuationsAfter hj
    exact ⟨line, hline, continuesWith_tailOf hcontinues⟩
  · rw [List.length_map] at hline
    cases (isContinuation_behind hline).symm.trans (isContinuation_iff.mpr ⟨tail, htail⟩)
  · rw [List.flatMap_map]
    rfl

/-- A line that no continuation follows is left as it is. -/
theorem joinContinuations_of_unfollowed (h : lines[i]? = some line)
    (hcontinues : ¬ Continues lines i) (hnext : ¬ Continues lines (i + 1)) :
    (joinContinuations lines)[i]? = some line := by
  have hnone : continuationsAfter lines i = [] := by
    refine List.eq_nil_iff_length_eq_zero.mpr (Nat.eq_zero_of_not_pos fun hpos => hnext ?_)
    obtain ⟨hline, hcontinues⟩ := getElem?_continuationsAfter (List.getElem?_eq_getElem hpos)
    exact (continues_iff hline).mpr ⟨Nat.succ_pos i, hcontinues⟩
  rw [joinContinuations_of_not_continues h hcontinues, hnone]
  simp

/-- **Joining changes nothing exactly if no line is a continuation.** -/
theorem joinContinuations_eq_self_iff :
    joinContinuations lines = lines ↔ ∀ i, ¬ Continues lines i := by
  constructor
  · intro h i hi
    have hempty := joinContinuations_of_continues hi
    obtain ⟨-, line, tail, hline, htail⟩ := hi
    rw [h, hline] at hempty
    exact htail.ne_nil (Option.some.inj hempty)
  · intro h
    refine List.ext_getElem? fun i => ?_
    cases hline : lines[i]? with
    | none =>
      rw [List.getElem?_eq_none_iff, length_joinContinuations]
      exact List.getElem?_eq_none_iff.mp hline
    | some line => exact joinContinuations_of_unfollowed hline (h i) (h (i + 1))

/-- **Joining continuations keeps the numbers of lines and their text.** There are as many lines as
before. A continuation is left empty; every other line is followed by what each of the run behind it
adds, and without such a run it stays as it is. Joining again changes nothing exactly if no joined
line is a continuation itself. -/
theorem joinContinuations_keeps_lines (lines : List (List Char)) :
    (joinContinuations lines).length = lines.length ∧
      (∀ i, Continues lines i → (joinContinuations lines)[i]? = some []) ∧
      (∀ i line, lines[i]? = some line → ¬ Continues lines i →
        ∃ tails, RunFrom lines (i + 1) tails ∧
          (joinContinuations lines)[i]? = some (line ++ tails.flatMap joinedTail)) ∧
      (∀ i line, lines[i]? = some line → ¬ Continues lines i → ¬ Continues lines (i + 1) →
        (joinContinuations lines)[i]? = some line) ∧
      (joinContinuations (joinContinuations lines) = joinContinuations lines ↔
        ∀ i, ¬ Continues (joinContinuations lines) i) := by
  refine ⟨length_joinContinuations lines, fun i => joinContinuations_of_continues,
    fun i line hline hcontinues => ?_, fun i line => joinContinuations_of_unfollowed,
    joinContinuations_eq_self_iff⟩
  obtain ⟨tails, hrun, htails⟩ := exists_runFrom lines i
  exact ⟨tails, hrun, htails ▸ joinContinuations_of_not_continues hline hcontinues⟩

/-- A sum on two lines, and a blank line that six dots follow. -/
def brokenSum : List (List Char) :=
  ["SAY: 1".toList, " ... + 2 ".toList, [], "......".toList, "END".toList]

theorem joinContinuations_brokenSum :
    joinContinuations brokenSum = ["SAY: 1 + 2".toList, [], " ...".toList, [], "END".toList] := by
  with_unfolding_all rfl

/-- The sum is put together, the last line stays, and the blank line becomes a continuation. -/
theorem joinContinuations_keeps_lines_brokenSum :
    (Continues brokenSum 1 ∧ (joinContinuations brokenSum)[1]? = some []) ∧
      (¬ Continues brokenSum 0 ∧ ∃ tails, RunFrom brokenSum 1 tails ∧
        (joinContinuations brokenSum)[0]? = some ("SAY: 1".toList ++ tails.flatMap joinedTail)) ∧
      (¬ Continues brokenSum 4 ∧ ¬ Continues brokenSum 5 ∧
        (joinContinuations brokenSum)[4]? = some "END".toList) ∧
      joinContinuations (joinContinuations brokenSum) ≠ joinContinuations brokenSum := by
  obtain ⟨-, hcontinued, hrun, hstays, hagain⟩ := joinContinuations_keeps_lines brokenSum
  have hsecond : Continues brokenSum 1 := (continues_iff rfl).mpr (by decide)
  have hfirst : ¬ Continues brokenSum 0 := fun h => Nat.lt_irrefl 0 h.1
  have hlast : ¬ Continues brokenSum 4 := (continues_iff rfl).not.mpr (by decide)
  have hbehind : ¬ Continues brokenSum 5 := fun ⟨_, _, _, hline, _⟩ => nomatch hline
  have hdots : (joinContinuations brokenSum)[2]? = some " ...".toList := by
    rw [joinContinuations_brokenSum]
    rfl
  refine ⟨⟨hsecond, hcontinued 1 hsecond⟩, ⟨hfirst, hrun 0 _ rfl hfirst⟩,
    ⟨hlast, hbehind, hstays 4 _ rfl hlast hbehind⟩, fun h => ?_⟩
  exact hagain.mp h 2 ((continues_iff hdots).mpr (by decide))

end StageScript
