import StageScript.Proofs.Text.Ascii
import StageScript.Grammar.Basic

/-!
# Reading the pieces of a line

The lexer takes one token after the other off the text. Here it is said for each sort of token which
text it is read from, if what follows does not go on. `Token.IsRead` puts such pieces together: a
text is read as tokens of a certain shape wherever it stands, as long as a separator or nothing
stands behind it.
-/

namespace StageScript

namespace Text

theorem byteLength_append (cs ds : List Char) :
    byteLength (cs ++ ds) = byteLength cs + byteLength ds := by
  induction cs with
  | nil => exact (Nat.zero_add _).symm
  | cons c cs ih =>
    show c.utf8Size + byteLength (cs ++ ds) = c.utf8Size + byteLength cs + byteLength ds
    rw [ih, Nat.add_assoc]

theorem byteLength_cons (c : Char) (cs : List Char) :
    byteLength (c :: cs) = c.utf8Size + byteLength cs := rfl

theorem byteLength_singleton (c : Char) : byteLength [c] = c.utf8Size := Nat.add_zero _

theorem byteLength_pos {cs : List Char} (h : cs ≠ []) : 0 < byteLength cs := by
  cases cs with
  | nil => exact absurd rfl h
  | cons c cs => exact Nat.add_pos_left c.utf8Size_pos _

/-- A text with its quotes is two bytes longer. -/
theorem byteLength_quoted (content : List Char) :
    byteLength (quote :: (content ++ [quote])) = byteLength content + 2 := by
  have hquote : quote.utf8Size = 1 := rfl
  rw [byteLength_cons, byteLength_append, byteLength_singleton, hquote]
  omega

/-- A character is not in two classes whose ranges lie apart. -/
theorem inRanges_eq_false_of_apart {ranges others : List (Nat × Nat)}
    (h : ∀ r ∈ ranges, ∀ s ∈ others, r.2 < s.1 ∨ s.2 < r.1) {c : Char}
    (hc : inRanges ranges c = true) : inRanges others c = false := by
  rw [Bool.eq_false_iff]
  intro hother
  obtain ⟨r, hr, hcr⟩ := List.any_eq_true.mp hc
  obtain ⟨s, hs, hcs⟩ := List.any_eq_true.mp hother
  simp only [Bool.and_eq_true, decide_eq_true_eq] at hcr hcs
  have hapart := h r hr s hs
  omega

end Text

namespace Token

open Text

/-! ### Characters -/

theorem isBlank_eq_false_of_isLetter {c : Char} (h : isLetter c = true) : isBlank c = false := by
  unfold isLetter at h
  split at h
  · next hascii =>
    exact of_ascii (P := fun c => c.isAlpha = true → isBlank c = false) (by decide +kernel)
      hascii h
  · have hletter : inRanges alphabeticRanges c = true := h
    refine inRanges_eq_false_of_apart ?_ hletter
    decide +kernel

theorem isDigit_ascii {c : Char} (h : c.isDigit = true) : c.toNat < 128 :=
  Nat.lt_of_le_of_lt (of_decide_eq_true (Bool.and_eq_true_iff.mp h).2)
    (show '9'.toNat < 128 by decide)

/-- A number starts with none of the characters that the lexer looks for first. -/
theorem of_isDigit {c : Char} (h : c.isDigit = true) :
    isBlank c = false ∧ c ≠ quote ∧ isLetter c = false :=
  of_ascii (P := fun c => c.isDigit = true → isBlank c = false ∧ c ≠ quote ∧ isLetter c = false)
    (by decide +kernel) (isDigit_ascii h) h

/-- A word starts with none of them either, nor with a digit. -/
theorem of_isWordStart {c : Char} (h : isWordStart c = true) :
    isBlank c = false ∧ c ≠ quote ∧ c.isDigit = false := by
  have hletter : isLetter c = true ∨ c = '_' := by simpa [isWordStart] using h
  rcases hletter with hletter | rfl
  · refine ⟨isBlank_eq_false_of_isLetter hletter, ?_, ?_⟩
    · rintro rfl
      exact absurd hletter (by decide)
    · rw [Bool.eq_false_iff]
      intro hdigit
      rw [(of_isDigit hdigit).2.2] at hletter
      cases hletter
  · exact ⟨by decide, by decide, by decide⟩

/-! ### Tokens -/

variable {line start : Nat} {c : Char} {cs rest : List Char}

theorem readFrom_blank (h : isBlank c = true) :
    readFrom line start (c :: rest) = readFrom line (start + c.utf8Size) rest := by
  rw [readFrom, if_pos h]

theorem readFrom_symbol (h : c ∈ symbols) :
    readFrom line start (c :: rest) = do
      let tokens ← readFrom line (start + c.utf8Size) rest
      return ⟨.symbol c, start, start + c.utf8Size⟩ :: tokens := by
  have hall : symbols.all (fun c => decide (isBlank c = false ∧ c ≠ quote ∧ c.isDigit = false ∧
      isWordStart c = false)) = true := by decide +kernel
  obtain ⟨hblank, hquote, hdigit, hstart⟩ := of_decide_eq_true (List.all_eq_true.mp hall c h)
  rw [readFrom, if_neg (by simp [hblank]), if_neg hquote, if_neg (by simp [hdigit]),
    if_neg (by simp [hstart]), if_pos (by simpa using h)]

/-- A run of characters ends where one follows that does not belong to it. -/
theorem span_of_ends {p : Char → Bool} (hcs : ∀ d ∈ cs, p d = true)
    (hrest : ∀ d ∈ rest.head?, p d = false) :
    (cs ++ rest).takeWhile p = cs ∧ (cs ++ rest).dropWhile p = rest := by
  rw [List.takeWhile_append_of_pos hcs, List.dropWhile_append_of_pos hcs]
  cases rest with
  | nil => exact ⟨List.append_nil _, rfl⟩
  | cons d rest => simp [hrest d rfl]

/-- A word is read to its end. -/
theorem readFrom_wordChars (hc : isWordStart c = true) (hcs : ∀ d ∈ cs, isWordChar d = true)
    (hrest : ∀ d ∈ rest.head?, isWordChar d = false) :
    readFrom line start (c :: cs ++ rest) = do
      let tokens ← readFrom line (start + byteLength (c :: cs)) rest
      return ofWord start (c :: cs) ++ tokens := by
  obtain ⟨hblank, hquote, hdigit⟩ := of_isWordStart hc
  obtain ⟨htake, hdrop⟩ := span_of_ends hcs hrest
  rw [List.cons_append, readFrom, if_neg (by simp [hblank]), if_neg hquote,
    if_neg (by simp [hdigit]), if_pos hc, htake, hdrop]

/-- A number is read to its end. -/
theorem readFrom_numberChars (hc : c.isDigit = true) (hcs : ∀ d ∈ cs, isNumberChar d = true)
    (hdots : (c :: cs).count '.' ≤ 1)
    (hrest : ∀ d ∈ rest.head?, isNumberChar d = false ∧ isWordStart d = false) :
    readFrom line start (c :: cs ++ rest) = do
      let tokens ← readFrom line (start + byteLength (c :: cs)) rest
      return ⟨.number (literalValue (c :: cs)), start, start + byteLength (c :: cs)⟩ :: tokens := by
  obtain ⟨hblank, hquote, -⟩ := of_isDigit hc
  obtain ⟨htake, hdrop⟩ := span_of_ends hcs fun d hd => (hrest d hd).1
  have hafter : (rest.head?.map isWordStart).getD false = false := by
    cases rest with
    | nil => rfl
    | cons d rest => exact (hrest d rfl).2
  have htoken : ofNumber line start (c :: cs) rest =
      .ok ⟨.number (literalValue (c :: cs)), start, start + byteLength (c :: cs)⟩ := by
    unfold ofNumber
    rw [hafter, if_neg (by simpa using hdots)]
  rw [List.cons_append, readFrom, if_neg (by simp [hblank]), if_neg hquote, if_pos hc, htake,
    hdrop]
  dsimp only
  rw [htoken]
  rfl

/-- A text between quotes is read to its closing quote. -/
theorem readFrom_quoted (hcs : quote ∉ cs) :
    readFrom line start (quote :: cs ++ quote :: rest) = do
      let tokens ← readFrom line (start + byteLength cs + 2) rest
      return ⟨.text (String.ofList cs), start, start + byteLength cs + 2⟩ :: tokens := by
  have hinside : ∀ d ∈ cs, decide (d ≠ quote) = true := fun d hd =>
    decide_eq_true (ne_of_mem_of_not_mem hd hcs)
  have hends : ∀ d ∈ (quote :: rest).head?, decide (d ≠ quote) = false := by
    rintro d ⟨⟩
    simp
  obtain ⟨htake, hdrop⟩ := span_of_ends hinside hends
  have hclosed : (cs ++ quote :: rest).contains quote = true := by simp
  rw [List.cons_append, readFrom, if_neg (by decide), if_pos rfl, if_pos hclosed, htake, hdrop]
  rfl

/-! ### Pieces -/

/-- The characters that may stand behind a piece. -/
def separators : List Char := [' ', ':', ',', ']']

/-- What may stand behind a piece: one of these characters, or nothing. -/
def Ends (rest : List Char) : Prop := ∀ d ∈ rest.head?, d ∈ separators

/-- **A text is read as tokens that satisfy `P`**, wherever it stands. -/
def IsRead (text : List Char) (P : Tokens → Prop) : Prop :=
  ∀ (line start : Nat) (rest : List Char) (more : Tokens), Ends rest →
    readFrom line (start + byteLength text) rest = .ok more →
    ∃ ts, P ts ∧ readFrom line start (text ++ rest) = .ok (ts ++ more)

/-- One word of a line: it starts like a word, goes on like one, and is not cut behind `NOT-`. -/
structure IsWord (word : List Char) : Prop where
  starts : (word.head?.map isWordStart).getD false = true
  goesOn : word.all isWordChar = true
  uncut : (negation.isPrefixOf word && !(word.drop negation.length).isEmpty) = false

/-- The digits of a number: a digit, and others with at most one dot among them. -/
structure IsNumeral (digits : List Char) : Prop where
  starts : (digits.head?.map Char.isDigit).getD false = true
  goesOn : digits.all isNumberChar = true
  dots : digits.count '.' ≤ 1

instance (word : List Char) : Decidable (IsWord word) :=
  decidable_of_iff (_ ∧ _ ∧ _)
    ⟨fun h => ⟨h.1, h.2.1, h.2.2⟩, fun h => ⟨h.starts, h.goesOn, h.uncut⟩⟩

instance (digits : List Char) : Decidable (IsNumeral digits) :=
  decidable_of_iff (_ ∧ _ ∧ _)
    ⟨fun h => ⟨h.1, h.2.1, h.2.2⟩, fun h => ⟨h.starts, h.goesOn, h.dots⟩⟩

theorem Ends.nil : Ends [] := by
  intro d hd
  cases hd

theorem Ends.cons (hc : c ∈ separators) (rest : List Char) : Ends (c :: rest) := by
  rintro d ⟨⟩
  exact hc

theorem Ends.head {p : Char → Bool} (h : Ends rest) (hp : separators.any p = false) :
    ∀ d ∈ rest.head?, p d = false := by
  intro d hd
  exact (Bool.not_eq_true _).mp (List.any_eq_false.mp hp d (h d hd))

theorem ofWord_eq_singleton {word : List Char} (h : IsWord word) :
    ofWord start word = [⟨.word (String.ofList word), start, start + byteLength word⟩] :=
  if_neg (by rw [h.uncut]; exact Bool.false_ne_true)

theorem isRead_word {word : String} (h : IsWord word.toList) :
    IsRead word.toList fun ts => ∃ a b, ts = [⟨.word word, a, b⟩] := by
  intro line start rest more hrest hmore
  obtain ⟨c, cs, hword⟩ : ∃ c cs, word.toList = c :: cs := by
    cases hword : word.toList with
    | nil =>
      have hstarts := h.starts
      rw [hword] at hstarts
      cases hstarts
    | cons c cs => exact ⟨c, cs, rfl⟩
  have hsingle : ofWord start word.toList = _ := ofWord_eq_singleton h
  rw [String.ofList_toList] at hsingle
  refine ⟨_, ⟨start, start + byteLength word.toList, rfl⟩, ?_⟩
  rw [← hsingle]
  rw [hword] at h hmore ⊢
  have hcs := (List.forall_mem_cons.mp (List.all_eq_true.mp h.goesOn)).2
  rw [readFrom_wordChars h.starts hcs (hrest.head (by decide)), hmore]
  rfl

theorem readFrom_numeral {digits : List Char} {more : Tokens} (h : IsNumeral digits)
    (hrest : Ends rest) (hmore : readFrom line (start + byteLength digits) rest = .ok more) :
    readFrom line start (digits ++ rest) =
      .ok (⟨.number (literalValue digits), start, start + byteLength digits⟩ :: more) := by
  cases digits with
  | nil => exact absurd h.starts (by decide)
  | cons c cs =>
    have hcs := (List.forall_mem_cons.mp (List.all_eq_true.mp h.goesOn)).2
    have hafter : ∀ d ∈ rest.head?, isNumberChar d = false ∧ isWordStart d = false := fun d hd =>
      ⟨hrest.head (by decide) d hd, hrest.head (by decide) d hd⟩
    rw [readFrom_numberChars h.starts hcs h.dots hafter, hmore]
    rfl

theorem isRead_quoted {content : List Char} (h : quote ∉ content) :
    IsRead (quote :: content ++ [quote]) fun ts =>
      ∃ a b, ts = [⟨.text (String.ofList content), a, b⟩] := by
  intro line start rest more _ hmore
  have hlength : start + byteLength (quote :: content ++ [quote]) =
      start + byteLength content + 2 := by
    rw [List.cons_append, byteLength_quoted, Nat.add_assoc]
  rw [hlength] at hmore
  refine ⟨_, ⟨start, start + byteLength content + 2, rfl⟩, ?_⟩
  rw [List.append_assoc, List.singleton_append, readFrom_quoted h, hmore]
  rfl

namespace IsRead

variable {text text' : List Char} {P Q : Tokens → Prop}

theorem mono (h : IsRead text P) (hPQ : ∀ ts, P ts → Q ts) : IsRead text Q := by
  intro line start rest more hrest hmore
  obtain ⟨ts, hts, hread⟩ := h line start rest more hrest hmore
  exact ⟨ts, hPQ ts hts, hread⟩

/-- Nothing is read as no token. -/
theorem nil (h : P []) : IsRead [] P := fun _ _ _ _ _ hmore => ⟨[], h, hmore⟩

theorem blank (h : IsRead text P) : IsRead (' ' :: text) P := by
  intro line start rest more hrest hmore
  have hstart : start + byteLength (' ' :: text) = start + 1 + byteLength text := by
    show start + (1 + byteLength text) = _
    omega
  rw [hstart] at hmore
  obtain ⟨ts, hts, hread⟩ := h line (start + 1) rest more hrest hmore
  refine ⟨ts, hts, ?_⟩
  rw [List.cons_append, readFrom_blank (by decide)]
  exact hread

theorem blanks (n : Nat) (h : IsRead text P) : IsRead (List.replicate n ' ' ++ text) P := by
  induction n with
  | zero => exact h
  | succ n ih => exact ih.blank

theorem symbol (hc : c ∈ symbols) (h : IsRead text P) :
    IsRead (c :: text) fun ts => ∃ a b us, ts = ⟨.symbol c, a, b⟩ :: us ∧ P us := by
  intro line start rest more hrest hmore
  have hstart : start + byteLength (c :: text) = start + c.utf8Size + byteLength text :=
    (Nat.add_assoc _ _ _).symm
  rw [hstart] at hmore
  obtain ⟨us, hus, hread⟩ := h line (start + c.utf8Size) rest more hrest hmore
  refine ⟨_, ⟨start, start + c.utf8Size, us, rfl, hus⟩, ?_⟩
  rw [List.cons_append, readFrom_symbol hc, hread]
  rfl

/-- A colon and a blank in front. -/
theorem colon (h : IsRead text P) : IsRead (':' :: ' ' :: text) fun ts =>
    ∃ a b us, ts = ⟨.symbol ':', a, b⟩ :: us ∧ P us := h.blank.symbol (by decide)

/-- Two pieces, the second of which may stand behind one. -/
theorem append (h : IsRead text P) (h' : IsRead text' Q) (hends : Ends text') :
    IsRead (text ++ text') fun ts => ∃ us vs, ts = us ++ vs ∧ P us ∧ Q vs := by
  intro line start rest more hrest hmore
  rw [byteLength_append, ← Nat.add_assoc] at hmore
  obtain ⟨vs, hvs, hread⟩ := h' line (start + byteLength text) rest more hrest hmore
  have hends' : Ends (text' ++ rest) := by
    cases text' with
    | nil => exact hrest
    | cons d text' => exact hends
  obtain ⟨us, hus, hread⟩ := h line start (text' ++ rest) (vs ++ more) hends' hread
  refine ⟨us ++ vs, ⟨us, vs, rfl, hus, hvs⟩, ?_⟩
  rw [List.append_assoc, hread, List.append_assoc]

/-- The tokens of a whole line. -/
theorem ofLine (h : IsRead text P) (line : Nat) : ∃ ts, P ts ∧ Token.ofLine line text = .ok ts := by
  have hend : readFrom line (0 + byteLength text) [] = .ok [] := by rw [readFrom]
  obtain ⟨ts, hts, hread⟩ := h line 0 [] [] .nil hend
  rw [List.append_nil, List.append_nil] at hread
  exact ⟨ts, hts, hread⟩

end IsRead

end Token

end StageScript
