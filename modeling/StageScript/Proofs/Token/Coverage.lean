import StageScript.Proofs.Token.Pieces

/-!
# What the tokens of a line leave out

The lexer gets from the start of a line to the next position where a token would start over a blank
or over a whole piece (`Token.Reaches`). From every such position it goes on until the line ends or
it meets an obstacle (`exists_end_or_obstacle`), so where it gets decides what it answers
(`readFrom_of_reaches`).

The tokens of what it has read cover the text but for white space (`Token.Covers`): the ranges of
bytes are in order and lie apart, and each spells its token.
-/

namespace StageScript.Token

open Text

/-! ### Ranges -/

/-- `spelled` stands between two characters of the text, in the bytes from `start` to `stop`, if
the text starts at the byte `offset`. -/
def Stands (offset : Nat) (text spelled : List Char) (start stop : Nat) : Prop :=
  ∃ before after, text = before ++ spelled ++ after ∧ start = offset + byteLength before ∧
    stop = start + byteLength spelled

/-- How a token is written. -/
inductive Spells : TokenKind → List Char → Prop
  | word (s : String) : Spells (.word s) s.toList
  | number {digits : List Char} (h : IsNumeral digits) :
    Spells (.number (literalValue digits)) digits
  | text (s : String) : Spells (.text s) (quote :: (s.toList ++ [quote]))
  | symbol (c : Char) : Spells (.symbol c) [c]

/-- The character that starts at the byte `start` stands in the range of the token. -/
def Holds (t : Token) (start : Nat) (c : Char) : Prop :=
  t.start ≤ start ∧ start + c.utf8Size ≤ t.stop

/-- **Tokens that cover a text**, which starts at the byte `offset`, but for white space. -/
structure Covers (offset : Nat) (text : List Char) (ts : Tokens) : Prop where
  nonempty : ∀ t ∈ ts, t.start < t.stop
  inOrder : ts.Pairwise fun t u => t.stop ≤ u.start
  spelled : ∀ t ∈ ts, ∃ spelled, Spells t.kind spelled ∧ Stands offset text spelled t.start t.stop
  covered : ∀ before c after, text = before ++ c :: after → isBlank c = false →
    ∃ t ∈ ts, t.Holds (offset + byteLength before) c

variable {offset line start : Nat} {text text' before rest spelled : List Char} {ts us : Tokens}

namespace Stands

theorem append_right {stop : Nat} (h : Stands offset text spelled start stop)
    (more : List Char) : Stands offset (text ++ more) spelled start stop := by
  obtain ⟨before, after, rfl, hstart, hstop⟩ := h
  exact ⟨before, after ++ more, List.append_assoc _ _ _, hstart, hstop⟩

theorem append_left {stop : Nat}
    (h : Stands (offset + byteLength text) text' spelled start stop) :
    Stands offset (text ++ text') spelled start stop := by
  obtain ⟨before, after, rfl, hstart, hstop⟩ := h
  refine ⟨text ++ before, after, ?_, ?_, hstop⟩
  · simp only [List.append_assoc]
  · rw [hstart, byteLength_append, Nat.add_assoc]

theorem bounds {stop : Nat} (h : Stands offset text spelled start stop) :
    offset ≤ start ∧ stop ≤ offset + byteLength text := by
  obtain ⟨before, after, rfl, hstart, hstop⟩ := h
  rw [byteLength_append, byteLength_append]
  omega

end Stands

namespace Covers

theorem blank {c : Char} (h : isBlank c = true) : Covers offset [c] [] where
  nonempty := nofun
  inOrder := .nil
  spelled := nofun
  covered before d after htext hd := by
    have hmem : d ∈ [c] := htext ▸ List.mem_append_right _ List.mem_cons_self
    rw [List.mem_singleton.mp hmem, h] at hd
    cases hd

/-- A text that spells one token is covered by it. -/
theorem singleton {kind : TokenKind} (h : Spells kind text) (hne : text ≠ []) :
    Covers offset text [⟨kind, offset, offset + byteLength text⟩] where
  nonempty t ht := by
    cases List.mem_singleton.mp ht
    exact Nat.lt_add_of_pos_right (byteLength_pos hne)
  inOrder := List.pairwise_singleton _ _
  spelled t ht := by
    cases List.mem_singleton.mp ht
    exact ⟨text, h, [], [], (List.append_nil _).symm, rfl, rfl⟩
  covered before c after htext _ := by
    refine ⟨_, List.mem_singleton_self _, Nat.le_add_right _ _, ?_⟩
    show offset + byteLength before + c.utf8Size ≤ offset + byteLength text
    rw [htext, byteLength_append, byteLength_cons]
    omega

/-- What covers two texts covers the one behind the other. -/
theorem append (h : Covers offset text ts) (h' : Covers (offset + byteLength text) text' us) :
    Covers offset (text ++ text') (ts ++ us) where
  nonempty t ht := (List.mem_append.mp ht).elim (h.nonempty t) (h'.nonempty t)
  inOrder := by
    refine List.pairwise_append.mpr ⟨h.inOrder, h'.inOrder, fun t ht u hu => ?_⟩
    obtain ⟨_, -, hfirst⟩ := h.spelled t ht
    obtain ⟨_, -, hsecond⟩ := h'.spelled u hu
    exact hfirst.bounds.2.trans hsecond.bounds.1
  spelled t ht := by
    rcases List.mem_append.mp ht with ht | ht
    · obtain ⟨spelled, hkind, hstands⟩ := h.spelled t ht
      exact ⟨spelled, hkind, hstands.append_right _⟩
    · obtain ⟨spelled, hkind, hstands⟩ := h'.spelled t ht
      exact ⟨spelled, hkind, hstands.append_left⟩
  covered before c after htext hc := by
    have hplace : (∃ after', text = before ++ c :: after') ∨
        ∃ before', before = text ++ before' ∧ text' = before' ++ c :: after := by
      rcases List.append_eq_append_iff.mp htext with hsecond | ⟨cs, rfl, hcs⟩
      · exact .inr hsecond
      · rcases List.cons_eq_append_iff.mp hcs with ⟨rfl, rfl⟩ | ⟨after', rfl, -⟩
        · exact .inr ⟨[], by simp⟩
        · exact .inl ⟨after', rfl⟩
    rcases hplace with ⟨after', htext⟩ | ⟨before', rfl, htext'⟩
    · obtain ⟨t, ht, hholds⟩ := h.covered before c after' htext hc
      exact ⟨t, List.mem_append_left _ ht, hholds⟩
    · obtain ⟨t, ht, hholds⟩ := h'.covered before' c after htext' hc
      refine ⟨t, List.mem_append_right _ ht, ?_⟩
      rwa [byteLength_append, ← Nat.add_assoc]

end Covers

/-- The tokens of a piece cover it. -/
theorem Piece.covers (h : Piece offset text ts) : Covers offset text ts := by
  have hword : ∀ {offset : Nat} {word : List Char}, word ≠ [] →
      Covers offset word [⟨.word (String.ofList word), offset, offset + byteLength word⟩] := by
    intro offset word hne
    refine .singleton ?_ hne
    simpa using Spells.word (String.ofList word)
  cases h with
  | @quoted content =>
    have hspells : Spells (.text (String.ofList content)) (quote :: (content ++ [quote])) := by
      simpa using Spells.text (String.ofList content)
    rw [Nat.add_assoc, ← byteLength_quoted]
    exact .singleton hspells (List.cons_ne_nil _ _)
  | number h =>
    refine .singleton (.number h) ?_
    rintro rfl
    exact absurd h.starts Bool.false_ne_true
  | word h =>
    refine hword ?_
    rintro rfl
    exact absurd h.starts Bool.false_ne_true
  | negated hne =>
    have hmark : Covers offset negation
        [⟨.word (String.ofList negation), offset, offset + byteLength negation⟩] :=
      hword (by decide)
    have hcut := hmark.append (hword hne)
    rwa [Nat.add_assoc, ← byteLength_append] at hcut
  | @symbol c =>
    have hcovers : Covers offset [c] [⟨.symbol c, offset, offset + byteLength [c]⟩] :=
      .singleton (.symbol c) (List.cons_ne_nil c [])
    rwa [byteLength_singleton] at hcovers

/-! ### Where a token would start -/

/-- **Where a token would start**: in front of the line, and behind a blank or a whole piece that
stands where a token would start. The tokens are those of the text before. -/
inductive Reaches : List Char → Tokens → List Char → Prop
  | start (text : List Char) : Reaches [] [] text
  | blank {before rest : List Char} {ts : Tokens} {c : Char} (h : Reaches before ts (c :: rest))
    (hc : isBlank c = true) : Reaches (before ++ [c]) ts rest
  | piece {before spelled rest : List Char} {ts us : Tokens}
    (h : Reaches before ts (spelled ++ rest)) (hpiece : Piece (byteLength before) spelled us)
    (hwhole : Whole spelled rest) : Reaches (before ++ spelled) (ts ++ us) rest

/-- The tokens of what is read cover it. -/
theorem Reaches.covers (h : Reaches before ts rest) : Covers 0 before ts := by
  induction h with
  | start => exact ⟨nofun, .nil, nofun, fun before _ _ h => by cases before <;> cases h⟩
  | blank _ hc ih => simpa using ih.append (.blank hc)
  | piece _ hpiece _ ih =>
    refine ih.append ?_
    rw [Nat.zero_add]
    exact hpiece.covers

/-! ### The lexer on pieces and obstacles -/

/-- **The lexer goes on where a token would start**, with the tokens of the text before. -/
theorem readFrom_of_reaches (h : Reaches before ts rest) :
    readFrom line 0 (before ++ rest) = do
      let more ← readFrom line (byteLength before) rest
      return ts ++ more := by
  induction h with
  | start text => exact (bind_pure _).symm
  | @blank before rest ts c _ hc ih =>
    rw [List.append_assoc, List.singleton_append, ih, readFrom_blank hc, byteLength_append,
      byteLength_singleton]
  | @piece before spelled rest ts us _ hpiece hwhole ih =>
    rw [List.append_assoc, ih, readFrom_piece hpiece hwhole, byteLength_append, bind_assoc]
    simp only [pure_bind, List.append_assoc]

/-! ### The end of the text or an obstacle -/

/-- **From where a token would start, the lexer gets to the end or to an obstacle.** -/
theorem exists_end_or_obstacle (h : Reaches before ts text) :
    ∃ before' ts' rest, before ++ text = before' ++ rest ∧ Reaches before' ts' rest ∧
      (rest = [] ∨ ∃ code cause, Obstacle (byteLength before') rest code cause) := by
  generalize hstart : byteLength before = start
  induction start, text using reading_induction generalizing before ts with
  | nil start => exact ⟨before, ts, [], rfl, h, .inl rfl⟩
  | obstacle start text code cause hobstacle =>
    subst hstart
    exact ⟨before, ts, text, rfl, h, .inr ⟨code, cause, hobstacle⟩⟩
  | blank start c rest hc ih =>
    subst hstart
    have hend := ih (h.blank hc) (by rw [byteLength_append, byteLength_singleton])
    rwa [List.append_assoc] at hend
  | piece start spelled us rest hpiece hwhole ih =>
    subst hstart
    have hend := ih (h.piece hpiece hwhole) (byteLength_append _ _)
    rwa [List.append_assoc] at hend

/-! ### Lines -/

variable {code : String} {cause : Cause}

theorem ofLine_of_reaches_end (h : Reaches text ts []) : ofLine line text = .ok ts := by
  have hread : readFrom line 0 (text ++ []) = _ := readFrom_of_reaches h
  rw [List.append_nil, readFrom] at hread
  exact hread.trans (congrArg Except.ok (List.append_nil ts))

theorem ofLine_of_obstacle (h : Reaches before ts rest)
    (hobstacle : Obstacle (byteLength before) rest code cause) :
    ofLine line (before ++ rest) = .error (.on line cause) := by
  unfold ofLine
  rw [readFrom_of_reaches h, readFrom_obstacle hobstacle]
  rfl

/-- A line is read as these tokens exactly if they are those of its whole pieces. -/
theorem ofLine_eq_ok_iff : ofLine line text = .ok ts ↔ Reaches text ts [] := by
  refine ⟨fun h => ?_, ofLine_of_reaches_end⟩
  obtain ⟨before, ts', rest, htext, hreaches, hend⟩ := exists_end_or_obstacle (.start text)
  rw [List.nil_append] at htext
  subst htext
  rcases hend with rfl | ⟨code, cause, hobstacle⟩
  · rw [List.append_nil] at h ⊢
    cases (ofLine_of_reaches_end hreaches).symm.trans h
    exact hreaches
  · cases (ofLine_of_obstacle hreaches hobstacle).symm.trans h

/-- A line is refused exactly if there is an obstacle where a token would start. -/
theorem ofLine_eq_error_iff {fault : Fault} :
    ofLine line text = .error fault ↔
      ∃ before ts rest code cause, text = before ++ rest ∧ Reaches before ts rest ∧
        Obstacle (byteLength before) rest code cause ∧ fault = .on line cause ∧
        fault.code = code := by
  constructor
  · intro h
    obtain ⟨before, ts, rest, htext, hreaches, hend⟩ := exists_end_or_obstacle (.start text)
    rw [List.nil_append] at htext
    subst htext
    rcases hend with rfl | ⟨code, cause, hobstacle⟩
    · rw [List.append_nil] at h
      cases (ofLine_of_reaches_end hreaches).symm.trans h
    · cases (ofLine_of_obstacle hreaches hobstacle).symm.trans h
      exact ⟨before, ts, rest, code, cause, rfl, hreaches, hobstacle, rfl, hobstacle.code_eq⟩
  · rintro ⟨before, ts, rest, code, cause, rfl, hreaches, hobstacle, rfl, -⟩
    exact ofLine_of_obstacle hreaches hobstacle

/-- **The tokens of a line leave out nothing but white space, and a line is refused exactly at an
obstacle.** Of a line that is read, the ranges of the tokens are not empty, in order and apart, each
spells its token, and every character outside them is white space. A line is refused exactly if,
where a token would start, there is a quote that is not closed, a run of digits and dots that is no
number, or a character that no token starts with. -/
theorem ofLine_covers_or_stops (line : Nat) (text : List Char) :
    (∀ ts, ofLine line text = .ok ts → Covers 0 text ts) ∧
      ∀ fault, ofLine line text = .error fault ↔
        ∃ before ts rest code cause, text = before ++ rest ∧ Reaches before ts rest ∧
          Obstacle (byteLength before) rest code cause ∧ fault = .on line cause ∧
          fault.code = code :=
  ⟨fun _ h => (ofLine_eq_ok_iff.mp h).covers, fun _ => ofLine_eq_error_iff⟩

/-- A line with a word that is cut behind `NOT-` and with characters of two bytes. -/
def notReady : List Char := "SAY: NOT-É + \"ü\" 3.5".toList

def notReadyTokens : Tokens :=
  [⟨.word "SAY", 0, 3⟩, ⟨.symbol ':', 3, 4⟩, ⟨.word "NOT-", 5, 9⟩, ⟨.word "É", 9, 11⟩,
    ⟨.symbol '+', 12, 13⟩, ⟨.text "ü", 14, 18⟩, ⟨.number (literalValue "3.5".toList), 19, 22⟩]

/-- This line is read, and one with two dots in a number is refused. -/
theorem ofLine_covers_or_stops_notReady :
    (ofLine 0 notReady = .ok notReadyTokens ∧ Covers 0 notReady notReadyTokens) ∧
      ofLine 4 "É + 1.2.3".toList = .error (.on 4 (.malformedNumber "1.2.3")) ∧
      ∃ before ts rest code cause, "É + 1.2.3".toList = before ++ rest ∧ Reaches before ts rest ∧
        Obstacle (byteLength before) rest code cause ∧
        Fault.on 4 (.malformedNumber "1.2.3") = .on 4 cause ∧
        (Fault.on 4 (.malformedNumber "1.2.3")).code = code := by
  have hread : ofLine 0 notReady = .ok notReadyTokens := by with_unfolding_all rfl
  have hrefused : ofLine 4 "É + 1.2.3".toList = .error (.on 4 (.malformedNumber "1.2.3")) := by
    with_unfolding_all rfl
  exact ⟨⟨hread, (ofLine_covers_or_stops 0 notReady).1 _ hread⟩, hrefused,
    ((ofLine_covers_or_stops 4 _).2 _).mp hrefused⟩

end StageScript.Token
