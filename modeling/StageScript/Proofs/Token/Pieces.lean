import Mathlib.Data.List.TakeWhile
import StageScript.Proofs.Grammar.WellFormed
import StageScript.Proofs.Token.Reading

/-!
# The pieces of a line

A line is read piece by piece. A piece is a quoted text, a number, a word or a symbol, and is read
as one token; or it is a word that is cut behind `NOT-`, and is read as two (`Token.Piece`). A text
that is not at its end starts with a blank, with a piece that goes as far as it can (`Token.Whole`),
or with an obstacle, at which the lexer stops (`end_or_obstacle_or_piece`). What the lexer does is
told by induction along these steps (`reading_induction`).

So a line that is read is a sequence of blanks and pieces (`Token.Pieces`). What holds of its tokens
is told from this: which words there are (`Pieces.isName_or_behindNegation`), and that tokens start
between two characters (`Pieces.starts_between`).
-/

namespace StageScript.Token

open Text

/-- **A piece of a line with the tokens it is read as**, if it starts at a byte. -/
inductive Piece (start : Nat) : List Char → Tokens → Prop
  | quoted {content : List Char} (h : quote ∉ content) :
    Piece start (quote :: (content ++ [quote]))
      [⟨.text (String.ofList content), start, start + byteLength content + 2⟩]
  | number {digits : List Char} (h : IsNumeral digits) :
    Piece start digits [⟨.number (literalValue digits), start, start + byteLength digits⟩]
  | word {word : List Char} (h : IsWord word) :
    Piece start word [⟨.word (String.ofList word), start, start + byteLength word⟩]
  | negated {name : List Char} (hne : name ≠ []) (h : ∀ c ∈ name, isWordChar c = true) :
    Piece start (negation ++ name)
      [⟨.word (String.ofList negation), start, start + negation.length⟩,
        ⟨.word (String.ofList name), start + negation.length,
          start + byteLength (negation ++ name)⟩]
  | symbol {c : Char} (h : c ∈ symbols) :
    Piece start [c] [⟨.symbol c, start, start + c.utf8Size⟩]

/-- Nothing behind the piece goes on with it: behind a word no character of words, behind a number
no character of numbers and no start of a word. -/
def Whole (spelled rest : List Char) : Prop :=
  ∀ c ∈ spelled.head?, ∀ d ∈ rest.head?,
    (isWordStart c = true → isWordChar d = false) ∧
      (c.isDigit = true → isNumberChar d = false ∧ isWordStart d = false)

/-- **What the lexer does not read** where a token would start, with the code and the cause of the
fault. A run of digits and dots that starts with a dot is met as a stray character. -/
inductive Obstacle (start : Nat) : List Char → String → Cause → Prop
  | unclosed {rest : List Char} (h : quote ∉ rest) :
    Obstacle start (quote :: rest) "COMPILE_UNTERMINATED_STRING" (.unterminatedString start)
  | number {run rest : List Char} (hstarts : (run.head?.map Char.isDigit).getD false = true)
    (hgoesOn : run.all isNumberChar = true) (hends : ∀ d ∈ rest.head?, isNumberChar d = false)
    (hbad : 2 ≤ run.count '.' ∨ ∃ d ∈ rest.head?, isWordStart d = true) :
    Obstacle start (run ++ rest) "COMPILE_MALFORMED_NUMBER" (.malformedNumber (String.ofList run))
  | stray {c : Char} {rest : List Char} (hblank : isBlank c = false) (hquote : c ≠ quote)
    (hdigit : c.isDigit = false) (hword : isWordStart c = false) (hsymbol : c ∉ symbols) :
    Obstacle start (c :: rest) "COMPILE_UNEXPECTED_TOKEN" (.unexpectedCharacter c)

variable {line start : Nat} {text rest spelled : List Char} {us : Tokens}

/-! ### Words and quoted texts -/

theorem isWordChar_of_isWordStart {c : Char} (h : isWordStart c = true) : isWordChar c = true := by
  have hstart : isLetter c = true ∨ c = '_' := by simpa [isWordStart] using h
  have hword : isAlphanumeric c = true ∨ c = '_' := by
    refine hstart.imp_left fun hletter => ?_
    unfold isLetter at hletter
    unfold isAlphanumeric
    split
    · next hascii =>
      rw [if_pos hascii] at hletter
      simp [Char.isAlphanum, hletter]
    · next hascii =>
      rw [if_neg hascii] at hletter
      simp [hletter]
  rcases hword with hword | rfl
  · simp [isWordChar, hword]
  · decide

/-- A run of word characters is a word, or it is cut behind `NOT-`. -/
theorem piece_ofWord {word : List Char} (hstarts : (word.head?.map isWordStart).getD false = true)
    (hgoesOn : word.all isWordChar = true) : Piece start word (ofWord start word) := by
  by_cases hcut : (negation.isPrefixOf word && !(word.drop negation.length).isEmpty) = true
  · obtain ⟨hnegation, hrest⟩ := Bool.and_eq_true_iff.mp hcut
    obtain ⟨name, rfl⟩ := List.isPrefixOf_iff_prefix.mp hnegation
    rw [List.drop_left] at hrest
    unfold ofWord
    rw [if_pos hcut, List.drop_left]
    refine .negated (by simpa using hrest) fun c hc => ?_
    exact List.all_eq_true.mp hgoesOn c (List.mem_append_right _ hc)
  · have hword : IsWord word := ⟨hstarts, hgoesOn, (Bool.not_eq_true _).mp hcut⟩
    rw [ofWord_eq_singleton hword]
    exact .word hword

/-- A literal that is closed, and what follows it. -/
theorem exists_of_closed {rest : List Char} (h : rest.contains quote = true) :
    ∃ tail, rest = rest.takeWhile (· ≠ quote) ++ quote :: tail ∧
      (rest.dropWhile (· ≠ quote)).drop 1 = tail := by
  have hsplit : rest.takeWhile (· ≠ quote) ++ rest.dropWhile (· ≠ quote) = rest :=
    List.takeWhile_append_dropWhile
  cases hdrop : rest.dropWhile (· ≠ quote) with
  | nil =>
    have hquote : quote ∈ rest := by simpa using h
    exact absurd rfl (of_decide_eq_true (List.dropWhile_eq_nil_iff.mp hdrop quote hquote))
  | cons c tail =>
    have hc := List.head?_dropWhile_not (· ≠ quote) rest
    rw [hdrop] at hc hsplit
    obtain rfl : c = quote := by simpa using hc
    exact ⟨tail, hsplit.symm, rfl⟩

theorem quote_notMem_takeWhile (rest : List Char) : quote ∉ rest.takeWhile (· ≠ quote) := by
  intro hmem
  exact absurd rfl (of_decide_eq_true (List.all_eq_true.mp List.all_takeWhile quote hmem))

/-! ### Reading pieces and obstacles -/

/-- A whole piece is read as its tokens. -/
theorem readFrom_piece (h : Piece start spelled us) (hwhole : Whole spelled rest) :
    readFrom line start (spelled ++ rest) = do
      let more ← readFrom line (start + byteLength spelled) rest
      return us ++ more := by
  cases h with
  | @quoted content hcontent =>
    rw [byteLength_quoted, ← Nat.add_assoc, List.cons_append, List.append_assoc]
    exact readFrom_quoted hcontent
  | number h =>
    cases spelled with
    | nil => exact absurd h.starts Bool.false_ne_true
    | cons c cs =>
      have hcs := (List.forall_mem_cons.mp (List.all_eq_true.mp h.goesOn)).2
      exact readFrom_numberChars h.starts hcs h.dots fun d hd => (hwhole c rfl d hd).2 h.starts
  | word h =>
    rw [← ofWord_eq_singleton h]
    cases spelled with
    | nil => exact absurd h.starts Bool.false_ne_true
    | cons c cs =>
      have hcs := (List.forall_mem_cons.mp (List.all_eq_true.mp h.goesOn)).2
      exact readFrom_wordChars h.starts hcs fun d hd => (hwhole c rfl d hd).1 h.starts
  | @negated name hne hname =>
    have hcut : ofWord start (negation ++ name) =
        [⟨.word (String.ofList negation), start, start + negation.length⟩,
          ⟨.word (String.ofList name), start + negation.length,
            start + byteLength (negation ++ name)⟩] := by
      have hrest : (name.isEmpty : Bool) = false := by simpa using hne
      simp [ofWord, hrest]
    rw [← hcut]
    have hstart : isWordStart 'N' = true := by decide
    have hmark : ∀ d ∈ ['O', 'T', '-'], isWordChar d = true := List.all_eq_true.mp rfl
    have hread : readFrom line start ('N' :: (['O', 'T', '-'] ++ name) ++ rest) = _ :=
      readFrom_wordChars hstart
        (fun d hd => (List.mem_append.mp hd).elim (hmark d) (hname d))
        fun d hd => (hwhole 'N' rfl d hd).1 hstart
    exact hread
  | symbol hc =>
    rw [byteLength_singleton]
    exact readFrom_symbol hc

/-- The lexer stops at an obstacle. -/
theorem readFrom_obstacle {code : String} {cause : Cause} (h : Obstacle start text code cause) :
    readFrom line start text = .error (.on line cause) := by
  cases h with
  | unclosed h => rw [readFrom, if_neg (by decide), if_pos rfl, if_neg (by simpa using h)]
  | @number run rest hstarts hgoesOn hends hbad =>
    cases run with
    | nil => exact absurd hstarts Bool.false_ne_true
    | cons c cs =>
      obtain ⟨hblank, hquote, -⟩ := of_isDigit hstarts
      have hcs := (List.forall_mem_cons.mp (List.all_eq_true.mp hgoesOn)).2
      obtain ⟨htake, hdrop⟩ := span_of_ends hcs hends
      have hfault : ofNumber line start (c :: cs) rest =
          .error (.on line (.malformedNumber (String.ofList (c :: cs)))) := by
        refine if_pos ?_
        rw [Bool.or_eq_true]
        refine hbad.imp decide_eq_true ?_
        rintro ⟨d, hd, hword⟩
        rw [Option.mem_def.mp hd]
        exact hword
      rw [List.cons_append, readFrom, if_neg (by simp [hblank]), if_neg hquote,
        if_pos (show c.isDigit = true from hstarts), htake, hdrop]
      dsimp only
      rw [hfault]
      rfl
  | stray hblank hquote hdigit hword hsymbol =>
    rw [readFrom, if_neg (by simp [hblank]), if_neg hquote, if_neg (by simp [hdigit]),
      if_neg (by simp [hword]), if_neg (by simpa using hsymbol)]

theorem Obstacle.code_eq {code : String} {cause : Cause} (h : Obstacle start text code cause) :
    cause.code = code := by
  cases h <;> rfl

/-! ### Steps -/

theorem forall_head?_dropWhile (p : Char → Bool) (cs : List Char) :
    ∀ d ∈ (cs.dropWhile p).head?, p d = false := by
  intro d hd
  have hnot := List.head?_dropWhile_not p cs
  rwa [Option.mem_def.mp hd] at hnot

/-- What starts neither as a word nor as a number is whole, whatever follows. -/
theorem whole_of_head {c : Char} {cs : List Char} (hword : isWordStart c = false)
    (hdigit : c.isDigit = false) (rest : List Char) : Whole (c :: cs) rest := by
  rintro _ ⟨⟩ d -
  exact ⟨fun h => absurd h (by simp [hword]), fun h => absurd h (by simp [hdigit])⟩

theorem whole_word {c : Char} {cs : List Char} (hc : isWordStart c = true)
    (hrest : ∀ d ∈ rest.head?, isWordChar d = false) : Whole (c :: cs) rest := by
  rintro _ ⟨⟩ d hd
  exact ⟨fun _ => hrest d hd, fun h => absurd h (by simp [(of_isWordStart hc).2.2])⟩

theorem whole_number {c : Char} {cs : List Char} (hc : c.isDigit = true)
    (hrest : ∀ d ∈ rest.head?, isNumberChar d = false ∧ isWordStart d = false) :
    Whole (c :: cs) rest := by
  rintro _ ⟨⟩ d hd
  refine ⟨fun h => ?_, fun _ => hrest d hd⟩
  cases hc.symm.trans (of_isWordStart h).2.2

/-- The text starts with a whole piece. -/
def StartsWhole (start : Nat) (text : List Char) : Prop :=
  ∃ spelled us rest, text = spelled ++ rest ∧ spelled ≠ [] ∧ Piece start spelled us ∧
    Whole spelled rest

theorem startsWhole_quoted (h : quote ∈ rest) : StartsWhole start (quote :: rest) := by
  obtain ⟨tail, hrest, -⟩ := exists_of_closed (by simpa using h)
  refine ⟨quote :: (rest.takeWhile (· ≠ quote) ++ [quote]), _, tail, ?_, List.cons_ne_nil _ _,
    .quoted (quote_notMem_takeWhile rest), whole_of_head (by decide) (by decide) _⟩
  rw [List.cons_append, List.append_assoc, List.singleton_append, ← hrest]

theorem startsWhole_word {c : Char} (hc : isWordStart c = true) (rest : List Char) :
    StartsWhole start (c :: rest) := by
  have hgoesOn : (c :: rest.takeWhile isWordChar).all isWordChar = true := by
    rw [List.all_cons, List.all_takeWhile, isWordChar_of_isWordStart hc]
    rfl
  refine ⟨c :: rest.takeWhile isWordChar, _, rest.dropWhile isWordChar, ?_, List.cons_ne_nil _ _,
    piece_ofWord hc hgoesOn, whole_word hc (forall_head?_dropWhile isWordChar rest)⟩
  rw [List.cons_append, List.takeWhile_append_dropWhile]

/-- A run of digits and dots is a number, or there is something wrong with it. -/
theorem obstacle_or_startsWhole_number {c : Char} (hc : c.isDigit = true) (rest : List Char) :
    (∃ code cause, Obstacle start (c :: rest) code cause) ∨ StartsWhole start (c :: rest) := by
  have hsplit : c :: rest = (c :: rest.takeWhile isNumberChar) ++ rest.dropWhile isNumberChar := by
    rw [List.cons_append, List.takeWhile_append_dropWhile]
  have hgoesOn : (c :: rest.takeWhile isNumberChar).all isNumberChar = true := by
    rw [List.all_cons, List.all_takeWhile, isNumberChar, hc]
    rfl
  have hends := forall_head?_dropWhile isNumberChar rest
  by_cases hbad : 2 ≤ (c :: rest.takeWhile isNumberChar).count '.' ∨
      ∃ d ∈ (rest.dropWhile isNumberChar).head?, isWordStart d = true
  · rw [hsplit]
    exact .inl ⟨_, _, .number hc hgoesOn hends hbad⟩
  · obtain ⟨hdots, hword⟩ := not_or.mp hbad
    refine .inr ⟨_, _, _, hsplit, List.cons_ne_nil _ _, .number ⟨hc, hgoesOn, by omega⟩,
      whole_number hc fun d hd => ⟨hends d hd, ?_⟩⟩
    rw [Bool.eq_false_iff]
    exact fun hd' => hword ⟨d, hd, hd'⟩

/-- **One step of the lexer**: a text is at its end, or it starts with an obstacle, a blank or a
whole piece. One case for each sort of character that it can start with. -/
theorem end_or_obstacle_or_piece (start : Nat) (text : List Char) :
    text = [] ∨ (∃ code cause, Obstacle start text code cause) ∨
      (∃ c rest, text = c :: rest ∧ isBlank c = true) ∨ StartsWhole start text := by
  cases text with
  | nil => exact .inl rfl
  | cons c rest =>
    refine .inr ?_
    by_cases hblank : isBlank c = true
    · exact .inr (.inl ⟨c, rest, rfl, hblank⟩)
    by_cases hquote : c = quote
    · subst hquote
      by_cases hclosed : quote ∈ rest
      · exact .inr (.inr (startsWhole_quoted hclosed))
      · exact .inl ⟨_, _, .unclosed hclosed⟩
    by_cases hdigit : c.isDigit = true
    · exact (obstacle_or_startsWhole_number hdigit rest).imp_right .inr
    by_cases hword : isWordStart c = true
    · exact .inr (.inr (startsWhole_word hword rest))
    rw [Bool.not_eq_true] at hblank hdigit hword
    by_cases hsymbol : c ∈ symbols
    · exact .inr (.inr ⟨[c], _, rest, rfl, List.cons_ne_nil _ _, .symbol hsymbol,
        whole_of_head hword hdigit rest⟩)
    · exact .inl ⟨_, _, .stray hblank hquote hdigit hword hsymbol⟩

/-- **Induction along a text as the lexer reads it**: to the end, or to an obstacle. -/
theorem reading_induction {P : Nat → List Char → Prop} (nil : ∀ start, P start [])
    (obstacle : ∀ start text code cause, Obstacle start text code cause → P start text)
    (blank : ∀ start c rest, isBlank c = true → P (start + c.utf8Size) rest → P start (c :: rest))
    (piece : ∀ start spelled us rest, Piece start spelled us → Whole spelled rest →
      P (start + byteLength spelled) rest → P start (spelled ++ rest))
    (start : Nat) (text : List Char) : P start text := by
  -- what is ahead gets shorter
  induction hlength : text.length using Nat.strong_induction_on generalizing start text with
  | _ n ih =>
    subst hlength
    rcases end_or_obstacle_or_piece start text with
      rfl | ⟨code, cause, hobstacle⟩ | ⟨c, rest, rfl, hc⟩ |
        ⟨spelled, us, rest, rfl, hne, hpiece, hwhole⟩
    · exact nil start
    · exact obstacle start text code cause hobstacle
    · exact blank start c rest hc (ih rest.length (Nat.lt_succ_self _) _ rest rfl)
    · have hshorter : rest.length < (spelled ++ rest).length := by
        rw [List.length_append]
        exact Nat.lt_add_of_pos_left (List.length_pos_iff.mpr hne)
      exact piece start spelled us rest hpiece hwhole (ih rest.length hshorter _ rest rfl)

/-! ### All pieces -/

/-- **Text made of blanks and pieces**, with the tokens it is read as, if it starts at a byte. -/
inductive Pieces : Nat → List Char → Tokens → Prop
  | nil (start : Nat) : Pieces start [] []
  | blank {start : Nat} {c : Char} {rest : List Char} {ts : Tokens} (hc : isBlank c = true)
    (h : Pieces (start + c.utf8Size) rest ts) : Pieces start (c :: rest) ts
  | piece {start : Nat} {spelled rest : List Char} {us ts : Tokens}
    (hpiece : Piece start spelled us) (h : Pieces (start + byteLength spelled) rest ts) :
    Pieces start (spelled ++ rest) (us ++ ts)

/-- **What the lexer reads is made of blanks and pieces.** -/
theorem pieces_of_readFrom {cs : List Char} {ts : Tokens} (h : readFrom line start cs = .ok ts) :
    Pieces start cs ts := by
  induction start, cs using reading_induction generalizing ts with
  | nil start =>
    rw [readFrom] at h
    cases h
    exact .nil start
  | obstacle start text code cause hobstacle =>
    cases (readFrom_obstacle hobstacle).symm.trans h
  | blank start c rest hc ih =>
    rw [readFrom_blank hc] at h
    exact .blank hc (ih h)
  | piece start spelled us rest hpiece hwhole ih =>
    rw [readFrom_piece hpiece hwhole] at h
    obtain ⟨more, hmore, h⟩ := exists_of_bind h
    cases h
    exact .piece hpiece (ih hmore)

/-! ### Words -/

/-- A name that starts as a word does, so with no digit and no dash, and goes on as a word does. -/
structure IsName (name : List Char) : Prop where
  starts : ∃ c ∈ name.head?, isWordStart c = true ∧ c.isDigit = false ∧ c ≠ '-'
  goesOn : ∀ c ∈ name, isWordChar c = true

/-- A name that goes on as a word does, whatever it starts with, and stands in a text directly
behind `NOT-`. -/
structure BehindNegation (text name : List Char) : Prop where
  nonempty : name ≠ []
  goesOn : ∀ c ∈ name, isWordChar c = true
  stands : negation ++ name <:+: text

theorem IsWord.isName {word : List Char} (h : IsWord word) : IsName word := by
  refine ⟨?_, List.all_eq_true.mp h.goesOn⟩
  cases word with
  | nil => exact absurd h.starts Bool.false_ne_true
  | cons c cs =>
    have hc : isWordStart c = true := h.starts
    refine ⟨c, rfl, hc, (of_isWordStart hc).2.2, ?_⟩
    rintro rfl
    exact absurd hc (by decide)

theorem isName_negation : IsName negation :=
  ⟨⟨'N', rfl, by decide, by decide, by decide⟩, List.all_eq_true.mp rfl⟩

theorem BehindNegation.mono {text text' name : List Char} (h : BehindNegation text name)
    (htext : text <:+: text') : BehindNegation text' name :=
  ⟨h.nonempty, h.goesOn, h.stands.trans htext⟩

/-- **The words of a line** start and go on as words do, or they stand directly behind `NOT-`. -/
theorem Pieces.isName_or_behindNegation {cs : List Char} {ts : Tokens} (h : Pieces start cs ts)
    {t : Token} (ht : t ∈ ts) {s : String} (hs : t.kind = .word s) :
    IsName s.toList ∨ BehindNegation cs s.toList := by
  induction h with
  | nil => cases ht
  | blank _ _ ih => exact (ih ht).imp_right (·.mono (List.suffix_cons _ _).isInfix)
  | @piece start spelled rest us ts hpiece _ ih =>
    rcases List.mem_append.mp ht with ht | ht
    · cases hpiece with
      | quoted | number | symbol =>
        cases List.mem_singleton.mp ht
        cases hs
      | word hword =>
        cases List.mem_singleton.mp ht
        cases hs
        exact .inl (by simpa using hword.isName)
      | @negated name hne hname =>
        rcases List.mem_pair.mp ht with rfl | rfl
        · cases hs
          exact .inl isName_negation
        · cases hs
          refine .inr ⟨by simpa using hne, by simpa using hname, ?_⟩
          rw [String.toList_ofList]
          exact (List.prefix_append _ rest).isInfix
    · exact (ih ht).imp_right (·.mono (List.suffix_append _ _).isInfix)

/-! ### Ranges -/

/-- **Tokens start between two characters** of the text they are read from. -/
theorem Pieces.starts_between {cs : List Char} {ts : Tokens} (h : Pieces start cs ts) {t : Token}
    (ht : t ∈ ts) : ∃ before after, cs = before ++ after ∧ t.start = start + byteLength before := by
  induction h with
  | nil => cases ht
  | @blank start c rest ts _ _ ih =>
    obtain ⟨before, after, rfl, hstart⟩ := ih ht
    exact ⟨c :: before, after, rfl, hstart.trans (Nat.add_assoc _ _ _)⟩
  | @piece start spelled rest us ts hpiece _ ih =>
    rcases List.mem_append.mp ht with ht | ht
    · cases hpiece with
      | quoted | number | symbol | word =>
        cases List.mem_singleton.mp ht
        exact ⟨[], _, rfl, rfl⟩
      | @negated name =>
        rcases List.mem_pair.mp ht with rfl | rfl
        · exact ⟨[], _, rfl, rfl⟩
        · exact ⟨negation, name ++ rest, List.append_assoc _ _ _, rfl⟩
    · obtain ⟨before, after, rfl, hstart⟩ := ih ht
      refine ⟨spelled ++ before, after, (List.append_assoc _ _ _).symm, hstart.trans ?_⟩
      rw [byteLength_append, Nat.add_assoc]

end StageScript.Token
