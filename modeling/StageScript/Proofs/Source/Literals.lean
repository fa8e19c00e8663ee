import Mathlib.Algebra.Group.Nat.Even
import Mathlib.Data.List.TakeWhile
import StageScript.Proofs.Grammar.WellFormed
import StageScript.Proofs.Text.Ascii
import StageScript.Proofs.Token.Pieces

/-!
# String literals reach the tokens

Four readers walk over a line and keep their own count of the quotes: one cuts off the comment, one
divides at semicolons, one folds the letters to capitals and one reads the tokens. They agree on
what is inside a literal, so what is written there reaches the tokens as it is.

What the literals of a line are is said without any of these readers: the line is split at its
quotes, and every second piece is a literal (`literals`). Each reader is then followed character by
character, with the question whether the next one is inside a literal carried along
(`literalsFrom`): folding leaves the literals (`literalsFrom_foldFrom`), dividing deals them out
(`literalsFrom_pieces`), and the tokens of a text have them, piece by piece
(`Token.Pieces.contents_eq`). That no letter turns into a quote in capitals is read off the tables
(`quote_notMem_capitals`).
-/

namespace StageScript

namespace Text

/-! ### The literals of a line -/

/-- Every second element: the first, the third and so on if `now`, else the second and so on. -/
def everySecond {α : Type} (now : Bool) : List α → List α
  | [] => []
  | x :: xs => if now then x :: everySecond (!now) xs else everySecond (!now) xs

/-- The literals of a text that starts inside a literal or outside. -/
def literalsFrom (inside : Bool) (cs : List Char) : List (List Char) :=
  everySecond inside (cs.splitOn quote)

/-- **The literals of a line**: what stands between the first quote and the second one, between the
third and the fourth, and so on. -/
def literals (line : List Char) : List (List Char) := literalsFrom false line

theorem splitOn_quote (cs : List Char) :
    (quote :: cs).splitOn quote = [] :: cs.splitOn quote := by
  simp only [List.splitOn_eq_splitOnP, List.splitOnP_cons_eq_if_modifyHead, beq_self_eq_true,
    if_true]

theorem splitOn_of_ne {c : Char} (h : c ≠ quote) (cs : List Char) :
    (c :: cs).splitOn quote = (cs.splitOn quote).modifyHead (c :: ·) := by
  simp only [List.splitOn_eq_splitOnP, List.splitOnP_cons_eq_if_modifyHead, beq_iff_eq, if_neg h]

theorem literalsFrom_quote (inside : Bool) (cs : List Char) :
    literalsFrom inside (quote :: cs) =
      if inside then [] :: literalsFrom false cs else literalsFrom true cs := by
  unfold literalsFrom
  rw [splitOn_quote]
  cases inside <;> rfl

theorem literalsFrom_of_ne (inside : Bool) {c : Char} (h : c ≠ quote) (cs : List Char) :
    literalsFrom inside (c :: cs) =
      if inside then (literalsFrom true cs).modifyHead (c :: ·) else literalsFrom false cs := by
  unfold literalsFrom
  rw [splitOn_of_ne h]
  obtain ⟨x, xs, hx⟩ := List.exists_cons_of_ne_nil (List.splitOn_ne_nil quote cs)
  rw [hx]
  cases inside <;> rfl

/-- Outside of literals, what holds no quote holds no literal. -/
theorem literalsFrom_append {before : List Char} (h : quote ∉ before) (cs : List Char) :
    literalsFrom false (before ++ cs) = literalsFrom false cs := by
  induction before with
  | nil => rfl
  | cons c before ih =>
    have hc := (List.ne_of_not_mem_cons h).symm
    rw [List.cons_append, literalsFrom_of_ne false hc, if_neg Bool.false_ne_true,
      ih (List.not_mem_of_not_mem_cons h)]

/-- Inside a literal, what holds no quote belongs to it. -/
theorem literalsFrom_true_append {content : List Char} (h : quote ∉ content) (cs : List Char) :
    literalsFrom true (content ++ quote :: cs) = content :: literalsFrom false cs := by
  induction content with
  | nil => rw [List.nil_append, literalsFrom_quote, if_pos rfl]
  | cons c content ih =>
    have hc := (List.ne_of_not_mem_cons h).symm
    rw [List.cons_append, literalsFrom_of_ne true hc, if_pos rfl,
      ih (List.not_mem_of_not_mem_cons h), List.modifyHead_cons]

theorem literalsFrom_true_ne_nil (cs : List Char) : literalsFrom true cs ≠ [] := by
  unfold literalsFrom
  obtain ⟨x, xs, hx⟩ := List.exists_cons_of_ne_nil (List.splitOn_ne_nil quote cs)
  rw [hx]
  exact List.cons_ne_nil _ _

/-! ### Capitals -/

theorem ofNat_ne_quote {n : Nat} (h : n ≠ quote.toNat) : Char.ofNat n ≠ quote := by
  intro he
  unfold Char.ofNat at he
  by_cases hvalid : n.isValidChar
  · rw [dif_pos hvalid] at he
    exact h (congrArg Char.toNat he)
  · rw [dif_neg hvalid] at he
    exact absurd he (by decide)

/-- **No letter turns into a quote.** The capitals beyond ASCII stay beyond it, but for some that
are several letters long. -/
theorem quote_notMem_capitals {c : Char} (h : c ≠ quote) : quote ∉ capitals c := by
  by_cases hc : c.toNat < 128
  · exact of_ascii (P := fun c => c ≠ quote → quote ∉ capitals c) (by decide +kernel) hc h
  · have hlong : longCapitals.all (fun e => e.2.all (· ≠ quote.toNat)) = true := by decide +kernel
    have hrun : caseRuns.all
        (fun r => decide ((quote.toNat : Int) < r.first + r.shift)) = true := by decide +kernel
    unfold capitals foreignCapitals
    rw [if_neg hc]
    split
    · next codes hcodes =>
      intro hmem
      obtain ⟨n, hn, he⟩ := List.mem_map.mp hmem
      obtain ⟨before, after, hentry, -⟩ := List.lookup_eq_some_iff.mp hcodes
      have hcode := List.all_eq_true.mp hlong (c.toNat, codes) (by rw [hentry]; simp)
      exact ofNat_ne_quote (of_decide_eq_true (List.all_eq_true.mp hcode n hn)) he
    · split
      · next run hfound =>
        have hcontains : run.contains c.toNat = true := by simpa using List.find?_some hfound
        have habove := of_decide_eq_true
          (List.all_eq_true.mp hrun run (List.mem_of_find?_eq_some hfound))
        have hfirst : run.first ≤ c.toNat := by
          simp only [CaseRun.contains, Bool.and_eq_true, decide_eq_true_eq] at hcontains
          exact hcontains.1.1
        have hcode : (c.toNat + run.shift).toNat ≠ quote.toNat := by omega
        simpa using (ofNat_ne_quote hcode).symm
      · simpa using h.symm

/-! ### Folding, dividing and cutting off -/

/-- **Folding leaves the literals as they are.** -/
theorem literalsFrom_foldFrom : ∀ (inside : Bool) (cs : List Char),
    literalsFrom inside (foldFrom inside cs) = literalsFrom inside cs
  | inside, [] => rfl
  | inside, c :: cs => by
    unfold foldFrom
    by_cases hc : c = quote
    · subst hc
      rw [if_pos rfl, literalsFrom_quote, literalsFrom_quote]
      cases inside
      · exact literalsFrom_foldFrom true cs
      · exact congrArg _ (literalsFrom_foldFrom false cs)
    · rw [if_neg hc]
      cases inside
      · rw [if_neg Bool.false_ne_true, literalsFrom_append (quote_notMem_capitals hc),
          literalsFrom_foldFrom false cs, literalsFrom_of_ne false hc, if_neg Bool.false_ne_true]
      · rw [if_pos rfl, literalsFrom_of_ne true hc, literalsFrom_of_ne true hc, if_pos rfl,
          if_pos rfl, literalsFrom_foldFrom true cs]

/-- **The part of a line before the first `#` outside literals**: what follows it, if anything,
starts with a `#` behind an even number of quotes, and each `#` in it is behind an odd number. -/
structure BeforeComment (line before : List Char) : Prop where
  rest : ∃ rest, line = before ++ rest ∧
    (rest = [] ∨ rest.head? = some '#' ∧ Even (before.count quote))
  first : ∀ p q, before = p ++ '#' :: q → ¬ Even (p.count quote)

/-- Behind a quote the other question is asked. -/
theorem even_succ_add_toNat (n : Nat) (inside : Bool) :
    Even (n + 1 + inside.toNat) ↔ Even (n + (!inside).toNat) := by
  cases inside with
  | false => exact Iff.rfl
  | true => simp [Nat.even_add_one]

theorem uncommentedFrom_spec : ∀ (inside : Bool) (cs : List Char),
    (∃ rest, cs = uncommentedFrom inside cs ++ rest ∧
      (rest = [] ∨ rest.head? = some '#' ∧
        Even ((uncommentedFrom inside cs).count quote + inside.toNat))) ∧
    ∀ p q, uncommentedFrom inside cs = p ++ '#' :: q → ¬ Even (p.count quote + inside.toNat)
  | inside, [] => ⟨⟨[], rfl, .inl rfl⟩, fun p q h => by cases p <;> cases h⟩
  | inside, c :: cs => by
    unfold uncommentedFrom
    by_cases hquote : c = quote
    · subst hquote
      obtain ⟨⟨rest, hrest, hstop⟩, hfirst⟩ := uncommentedFrom_spec (!inside) cs
      rw [if_pos rfl]
      refine ⟨⟨rest, congrArg (quote :: ·) hrest, hstop.imp_right fun h => ⟨h.1, ?_⟩⟩,
        fun p q h => ?_⟩
      · rw [List.count_cons_self, even_succ_add_toNat]
        exact h.2
      · cases p with
        | nil => cases h
        | cons d p =>
          obtain ⟨rfl, hp⟩ := List.cons.inj h
          rw [List.count_cons_self, even_succ_add_toNat]
          exact hfirst p q hp
    · rw [if_neg hquote]
      split
      · next hcomment =>
        obtain ⟨rfl, rfl⟩ : inside = false ∧ c = '#' := by simpa using hcomment
        exact ⟨⟨'#' :: cs, rfl, .inr ⟨rfl, ⟨0, rfl⟩⟩⟩, fun p q h => by cases p <;> cases h⟩
      · next hcomment =>
        obtain ⟨⟨rest, hrest, hstop⟩, hfirst⟩ := uncommentedFrom_spec inside cs
        refine ⟨⟨rest, congrArg (c :: ·) hrest, ?_⟩, fun p q h => ?_⟩
        · rwa [List.count_cons_of_ne hquote]
        · cases p with
          | nil =>
            obtain ⟨rfl, -⟩ := List.cons.inj h
            cases inside with
            | false => exact absurd rfl hcomment
            | true => exact Nat.not_even_one
          | cons d p =>
            obtain ⟨rfl, hp⟩ := List.cons.inj h
            rw [List.count_cons_of_ne hquote]
            exact hfirst p q hp

theorem stripComment_spec (line : List Char) : BeforeComment line (stripComment line) where
  rest := (uncommentedFrom_spec false line).1
  first := (uncommentedFrom_spec false line).2

theorem findFrom_hash : ∀ (inside : Bool) (offset : Nat) (cs : List Char),
    findFrom ['#'] inside offset cs =
      if uncommentedFrom inside cs = cs then none
      else some (offset + byteLength (uncommentedFrom inside cs))
  | inside, offset, [] => rfl
  | inside, offset, c :: cs => by
    have hlength : ∀ cs, offset + c.utf8Size + byteLength cs = offset + byteLength (c :: cs) :=
      fun cs => Nat.add_assoc _ _ _
    have hhash : ['#'].isPrefixOf (c :: cs) = decide (c = '#') := by
      rw [Bool.eq_iff_iff, decide_eq_true_iff, @eq_comm _ c]
      simp [List.isPrefixOf]
    unfold findFrom uncommentedFrom
    rw [hhash]
    split
    · rw [findFrom_hash (!inside)]
      simp only [List.cons.injEq, true_and, hlength]
    · split
      · rfl
      · rw [findFrom_hash inside]
        simp only [List.cons.injEq, true_and, hlength]

/-- **Searching for a comment and cutting it off agree**: the first `#` outside literals is found
where the part before the comment ends. -/
theorem findOutside_hash (line : List Char) :
    findOutside ['#'] line =
      if stripComment line = line then none else some (byteLength (stripComment line)) := by
  have hfind := findFrom_hash false 0 line
  rw [Nat.zero_add] at hfind
  exact hfind

/-- There is one such part. -/
theorem BeforeComment.eq {line before before' : List Char} (h : BeforeComment line before)
    (h' : BeforeComment line before') (hle : before.length ≤ before'.length) :
    before = before' := by
  obtain ⟨rest, hrest, hstop⟩ := h.rest
  obtain ⟨rest', hrest', -⟩ := h'.rest
  obtain ⟨more, hmore⟩ : before <+: before' :=
    List.prefix_of_prefix_length_le ⟨rest, hrest.symm⟩ ⟨rest', hrest'.symm⟩ hle
  have htail : rest = more ++ rest' := by
    rw [hrest, ← hmore, List.append_assoc] at hrest'
    exact List.append_cancel_left hrest'
  cases more with
  | nil => rw [← hmore, List.append_nil]
  | cons c more =>
    -- what follows the shorter part is a `#` of the longer one
    subst htail
    rcases hstop with hnil | ⟨hhash, heven⟩
    · cases hnil
    · cases hhash
      exact absurd heven (h'.first before more hmore.symm)

theorem BeforeComment.eq_stripComment {line before : List Char} (h : BeforeComment line before) :
    stripComment line = before := by
  rcases Nat.le_total (stripComment line).length before.length with hle | hle
  · exact (stripComment_spec line).eq h hle
  · exact (h.eq (stripComment_spec line) hle).symm

section Pieces

theorem piecesFrom_quote (inside : Bool) (cs : List Char) :
    piecesFrom inside (quote :: cs) =
      (quote :: (piecesFrom (!inside) cs).1, (piecesFrom (!inside) cs).2) := rfl

theorem piecesFrom_semicolon (cs : List Char) :
    piecesFrom false (';' :: cs) = ([], (piecesFrom false cs).1 :: (piecesFrom false cs).2) := rfl

theorem piecesFrom_of_ne {inside : Bool} {c : Char} (hquote : c ≠ quote)
    (hsemicolon : c = ';' → inside = true) (cs : List Char) :
    piecesFrom inside (c :: cs) = (c :: (piecesFrom inside cs).1, (piecesFrom inside cs).2) := by
  have hdivide : ¬ (c = ';' && !inside) = true := by
    cases inside <;> simp_all
  simp only [piecesFrom, if_neg hquote, if_neg hdivide]

/-- What becomes of a character when a line is divided: it is a quote, it divides, or it belongs to
the first piece. -/
theorem divide_cases (inside : Bool) (c : Char) :
    c = quote ∨ (c = ';' ∧ inside = false) ∨ (c ≠ quote ∧ (c = ';' → inside = true)) := by
  by_cases hquote : c = quote
  · exact .inl hquote
  · cases inside with
    | true => exact .inr (.inr ⟨hquote, fun _ => rfl⟩)
    | false =>
      by_cases hsemicolon : c = ';'
      · exact .inr (.inl ⟨hsemicolon, rfl⟩)
      · exact .inr (.inr ⟨hquote, fun h => absurd h hsemicolon⟩)

/-- **Dividing deals out the literals**, in their order: those of the first piece, and those of the
others, which start outside. -/
theorem literalsFrom_pieces : ∀ (inside : Bool) (cs : List Char),
    literalsFrom inside cs =
      literalsFrom inside (piecesFrom inside cs).1 ++ (piecesFrom inside cs).2.flatMap literals
  | inside, [] => by cases inside <;> rfl
  | inside, c :: cs => by
    rcases divide_cases inside c with rfl | ⟨rfl, rfl⟩ | ⟨hquote, hsemicolon⟩
    · have ih := literalsFrom_pieces (!inside) cs
      rw [piecesFrom_quote, literalsFrom_quote, literalsFrom_quote]
      cases inside
      · exact ih
      · exact congrArg _ ih
    · have ih := literalsFrom_pieces false cs
      rw [piecesFrom_semicolon, literalsFrom_of_ne false (by decide), List.flatMap_cons]
      exact ih
    · have ih := literalsFrom_pieces inside cs
      rw [piecesFrom_of_ne hquote hsemicolon, literalsFrom_of_ne inside hquote,
        literalsFrom_of_ne inside hquote]
      cases inside
      · exact ih
      · obtain ⟨x, xs, hx⟩ := List.exists_cons_of_ne_nil
          (literalsFrom_true_ne_nil (piecesFrom true cs).1)
        rw [if_pos rfl, if_pos rfl, ih, hx]
        rfl

/-- Every piece has an even number of quotes, if the text has: each of them ends outside. -/
theorem even_count_pieces : ∀ (inside : Bool) (cs : List Char),
    Even (cs.count quote + inside.toNat) →
      Even ((piecesFrom inside cs).1.count quote + inside.toNat) ∧
        ∀ piece ∈ (piecesFrom inside cs).2, Even (piece.count quote)
  | inside, [], h => ⟨h, fun _ hp => by cases hp⟩
  | inside, c :: cs, h => by
    rcases divide_cases inside c with rfl | ⟨rfl, rfl⟩ | ⟨hquote, hsemicolon⟩
    · have ih := even_count_pieces (!inside) cs
      rw [piecesFrom_quote]
      rw [List.count_cons_self, even_succ_add_toNat] at h ⊢
      exact ih h
    · have ih := even_count_pieces false cs
      rw [piecesFrom_semicolon]
      rw [List.count_cons_of_ne (by decide)] at h
      exact ⟨⟨0, rfl⟩, List.forall_mem_cons.mpr (ih h)⟩
    · have ih := even_count_pieces inside cs
      rw [piecesFrom_of_ne hquote hsemicolon]
      rw [List.count_cons_of_ne hquote] at h ⊢
      exact ih h

/-- Put together with semicolons, the pieces are the text. -/
theorem intercalate_pieces : ∀ (inside : Bool) (cs : List Char),
    [';'].intercalate ((piecesFrom inside cs).1 :: (piecesFrom inside cs).2) = cs
  | inside, [] => rfl
  | inside, c :: cs => by
    rcases divide_cases inside c with rfl | ⟨rfl, rfl⟩ | ⟨hquote, hsemicolon⟩
    · have ih := intercalate_pieces (!inside) cs
      rw [piecesFrom_quote, List.intercalate_cons_cons_left, ih]
    · have ih := intercalate_pieces false cs
      rw [piecesFrom_semicolon, List.intercalate_cons_cons, ih]
      rfl
    · have ih := intercalate_pieces inside cs
      rw [piecesFrom_of_ne hquote hsemicolon, List.intercalate_cons_cons_left, ih]

/-- All pieces of a line, blank or not. -/
def pieces (line : List Char) : List (List Char) :=
  (piecesFrom false line).1 :: (piecesFrom false line).2

theorem mem_pieces_of_mem_statements {line s : List Char} (h : s ∈ splitStatements line) :
    s ∈ pieces line := by
  unfold splitStatements at h
  unfold pieces
  cases hpieces : piecesFrom false line with
  | mk first others =>
    rw [hpieces] at h
    cases others with
    | nil => exact h
    | cons other others => exact (List.mem_filter.mp h).1

theorem literals_of_allBlank {piece : List Char} (h : allBlank piece = true) :
    literals piece = [] := by
  have hquote : quote ∉ piece := fun hmem =>
    absurd (List.all_eq_true.mp h quote hmem) (by decide)
  have happend := literalsFrom_append hquote []
  rw [List.append_nil] at happend
  exact happend

/-- **The statements have the literals of their line**: a piece that is dropped has none. -/
theorem literals_statements (line : List Char) :
    (splitStatements line).flatMap literals = literals line := by
  have hall : (pieces line).flatMap literals = literals line :=
    (literalsFrom_pieces false line).symm
  rw [← hall]
  unfold splitStatements pieces
  cases hpieces : piecesFrom false line with
  | mk first others =>
    cases others with
    | nil => rfl
    | cons other others =>
      dsimp only
      induction first :: other :: others with
      | nil => rfl
      | cons piece rest ih =>
        rw [List.filter_cons, List.flatMap_cons, ← ih]
        cases hblank : allBlank piece with
        | true => rw [literals_of_allBlank hblank]; rfl
        | false => rfl

end Pieces

end Text

/-! ### Tokens -/

namespace Token

open Text

/-- The text of a token that is one. -/
def content? (t : Token) : Option String :=
  match t.kind with
  | .text content => some content
  | _ => none

/-- The texts among some tokens. -/
def contents (tokens : List Token) : List String := tokens.filterMap content?

theorem contents_append (ts ts' : List Token) :
    contents (ts ++ ts') = contents ts ++ contents ts' :=
  List.filterMap_append

theorem quote_notMem_of_all {p : Char → Bool} {cs : List Char} (h : cs.all p = true)
    (hquote : p quote = false) : quote ∉ cs := by
  intro hmem
  cases hquote.symm.trans (List.all_eq_true.mp h quote hmem)

/-- A piece has the literal that it is read as, if any, and leaves those behind it. -/
theorem Piece.literals_append {start : Nat} {spelled : List Char} {us : Tokens}
    (h : Piece start spelled us) (rest : List Char) :
    (literals (spelled ++ rest)).map String.ofList =
      contents us ++ (literals rest).map String.ofList := by
  cases h with
  | @quoted content hcontent =>
    have hliterals : literals (quote :: (content ++ [quote]) ++ rest) =
        content :: literals rest := by
      rw [List.cons_append, List.append_assoc, literals, literalsFrom_quote,
        if_neg Bool.false_ne_true]
      exact literalsFrom_true_append hcontent rest
    rw [hliterals]
    rfl
  | number hdigits =>
    exact congrArg _ (literalsFrom_append (quote_notMem_of_all hdigits.goesOn (by decide)) rest)
  | word hword =>
    exact congrArg _ (literalsFrom_append (quote_notMem_of_all hword.goesOn (by decide)) rest)
  | @negated name _ hname =>
    have hquote : quote ∉ negation ++ name := fun hmem =>
      (List.mem_append.mp hmem).elim (by decide)
        (quote_notMem_of_all (List.all_eq_true.mpr hname) (by decide))
    exact congrArg _ (literalsFrom_append hquote rest)
  | @symbol c hc =>
    have hquote : quote ∉ [c] := fun hmem =>
      absurd (List.mem_singleton.mp hmem ▸ hc) (by decide)
    exact congrArg _ (literalsFrom_append hquote rest)

/-- **The texts among the tokens are the literals.** -/
theorem Pieces.contents_eq {start : Nat} {cs : List Char} {tokens : Tokens}
    (h : Pieces start cs tokens) : contents tokens = (literals cs).map String.ofList := by
  induction h with
  | nil => rfl
  | @blank _ c rest _ hblank _ ih =>
    have hc : c ≠ quote := by
      rintro rfl
      exact absurd hblank (by decide)
    rw [ih]
    exact congrArg _ (literalsFrom_of_ne false hc rest).symm
  | piece hpiece _ ih => rw [contents_append, ih, hpiece.literals_append]

end Token

open Text

/-- **Literals reach the tokens untouched.** Let an even number of quotes stand before the comment
of a line, and let each of its statements, folded to capitals, have tokens. Then the texts among
these tokens are what stands between the first quote and the second one, the third and the fourth
and so on, character for character; each statement has an even number of quotes; and with
semicolons between them, all pieces make up the line without its comment. -/
theorem literals_reach_tokens {line before : List Char} {tokens : List (List Token)}
    (hbefore : BeforeComment line before) (heven : Even (before.count quote))
    (hread : List.Forall₂ (fun s ts => ∃ number, Token.ofLine number (foldCase s) = .ok ts)
      (splitStatements (stripComment line)) tokens) :
    stripComment line = before ∧
      Token.contents tokens.flatten = (literals before).map String.ofList ∧
      (∀ s ∈ splitStatements (stripComment line), Even (s.count quote)) ∧
      [';'].intercalate (pieces (stripComment line)) = stripComment line := by
  have hstrip := hbefore.eq_stripComment
  rw [hstrip] at hread ⊢
  refine ⟨rfl, ?_, fun s hs => ?_, intercalate_pieces false before⟩
  · rw [← literals_statements before]
    generalize splitStatements before = statements at hread
    induction hread with
    | nil => rfl
    | cons hstatement _ ih =>
      obtain ⟨number, hstatement⟩ := hstatement
      rw [List.flatten_cons, Token.contents_append, List.flatMap_cons, List.map_append, ih,
        (Token.pieces_of_readFrom hstatement).contents_eq]
      exact congrArg (List.map String.ofList · ++ _) (literalsFrom_foldFrom false _)
  · obtain ⟨hfirst, hothers⟩ := even_count_pieces false before heven
    rcases List.mem_cons.mp (mem_pieces_of_mem_statements hs) with rfl | hs
    · exact hfirst
    · exact hothers s hs

/-! ### An example -/

/-- A line with a semicolon and a hash in its literals, and quotes in its comment. -/
def quotedLine : List Char := "say: \"a;b\"; say: \"#é\" # \"no\"".toList

theorem literals_reach_tokens_quotedLine : ∃ tokens,
    List.Forall₂ (fun s ts => ∃ number, Token.ofLine number (foldCase s) = .ok ts)
      (splitStatements (stripComment quotedLine)) tokens ∧
    Token.contents tokens.flatten = ["a;b", "#é"] := by
  have hbefore : BeforeComment quotedLine "say: \"a;b\"; say: \"#é\" ".toList :=
    stripComment_spec quotedLine
  have hread : List.Forall₂ (fun s ts => ∃ number, Token.ofLine number (foldCase s) = .ok ts)
      (splitStatements (stripComment quotedLine))
      [[⟨.word "SAY", 0, 3⟩, ⟨.symbol ':', 3, 4⟩, ⟨.text "a;b", 5, 10⟩],
        [⟨.word "SAY", 1, 4⟩, ⟨.symbol ':', 4, 5⟩, ⟨.text "#é", 6, 11⟩]] :=
    .cons ⟨0, by with_unfolding_all rfl⟩ (.cons ⟨1, by with_unfolding_all rfl⟩ .nil)
  exact ⟨_, hread, (literals_reach_tokens hbefore (by decide) hread).2.1⟩

end StageScript
