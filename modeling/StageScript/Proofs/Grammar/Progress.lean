import StageScript.Proofs.Grammar.FaultLine

/-!
# The grammar makes progress

Parsers call one another, and chains of operators and lists go on as long as the tokens let them.
Why does reading come to an end? The parsers take tokens before they call one another, so they do
not go down below the lowest level: with other parsers in its place (`Line.levelOver`) the same is
read (`Line.Progress`). And each step of a chain or a list takes a token, so it ends where no
operator or no separator follows, not for want of steps (`ChainRuns`, `ListRuns`). Tokens start
between two characters of the line, so it can be quoted from each of them. All this is stated in
`Line.parsers_make_progress`.
-/

namespace StageScript

/-! ### Loops -/

/-- **A loop of operators, run to its end**: it stops where no operator follows, and not before,
unless a step finds fault. -/
inductive ChainRuns {α β : Type} (operator? : α → Tokens → Option (β × Tokens))
    (step : α → β → Tokens → Except Fault (α × Tokens)) :
    α → Tokens → Except Fault (α × Tokens) → Prop
  | stops {left : α} {ts : Tokens} (h : operator? left ts = none) :
    ChainRuns operator? step left ts (.ok (left, ts))
  | fails {left : α} {ts rest : Tokens} {b : β} {f : Fault}
    (h : operator? left ts = some (b, rest)) (hstep : step left b rest = .error f) :
    ChainRuns operator? step left ts (.error f)
  | goesOn {left next : α} {ts rest rest' : Tokens} {b : β} {r : Except Fault (α × Tokens)}
    (h : operator? left ts = some (b, rest)) (hstep : step left b rest = .ok (next, rest'))
    (hnext : ChainRuns operator? step next rest' r) : ChainRuns operator? step left ts r

/-- **A loop of items, run to its end**: the list is closed where no separator follows, and not
before, unless an item finds fault. -/
inductive ListRuns {α : Type} (line : Line) (unterminated : Cause)
    (item : Tokens → Except Fault (α × Tokens)) :
    Tokens → Except Fault (List α × Tokens) → Prop
  | fails {ts : Tokens} {f : Fault} (hitem : item ts = .error f) :
    ListRuns line unterminated item ts (.error f)
  | last {ts rest : Tokens} {a : α} (hitem : item ts = .ok (a, rest))
    (h : separator? rest = none) :
    ListRuns line unterminated item ts
      (line.closing unterminated rest >>= fun rest => pure ([a], rest))
  | more {ts rest rest' : Tokens} {a : α} {r : Except Fault (List α × Tokens)}
    (hitem : item ts = .ok (a, rest)) (h : separator? rest = some rest')
    (hnext : ListRuns line unterminated item rest' r) :
    ListRuns line unterminated item ts (r >>= fun others => pure (a :: others.1, others.2))

section Loops

variable {α β : Type} {line : Line} {ts rest : Tokens}

/-- **A chain runs to its end** with as many steps as there are tokens, for each operator is one of
them. -/
theorem chainRuns {operator? : α → Tokens → Option (β × Tokens)}
    {step : α → β → Tokens → Except Fault (α × Tokens)}
    (ho : ∀ {left ts b rest}, operator? left ts = some (b, rest) → ∃ t, ts = t :: rest)
    (hstep : ∀ {left b ts a rest}, step left b ts = .ok (a, rest) → rest.length ≤ ts.length)
    {budget : Nat} (hbudget : ts.length ≤ budget) (left : α) :
    ChainRuns operator? step left ts (chain operator? step budget left ts) := by
  induction budget generalizing left ts with
  | zero =>
    obtain rfl : ts = [] := List.length_eq_zero_iff.mp (Nat.le_zero.mp hbudget)
    refine .stops ?_
    cases h : operator? left [] with
    | none => rfl
    | some found =>
      obtain ⟨t, ht⟩ := ho h
      cases ht
  | succ budget ih =>
    unfold chain
    cases h : operator? left ts with
    | none => exact .stops h
    | some found =>
      obtain ⟨b, rest⟩ := found
      obtain ⟨t, rfl⟩ := ho h
      dsimp only
      cases hs : step left b rest with
      | error f => exact .fails h hs
      | ok read =>
        obtain ⟨next, rest'⟩ := read
        exact .goesOn h hs (ih (Nat.le_trans (hstep hs) (Nat.le_of_succ_le_succ hbudget)) next)

/-- **A list runs to its end** with as many items behind the first as there are tokens, for each
separator is one of them. -/
theorem listRuns {unterminated : Cause} {item : Tokens → Except Fault (α × Tokens)}
    (hitem : ∀ {ts a rest}, item ts = .ok (a, rest) → rest.length ≤ ts.length) {budget : Nat}
    (hbudget : ts.length ≤ budget) :
    ListRuns line unterminated item ts (separated line unterminated item budget ts) := by
  induction budget generalizing ts with
  | zero =>
    unfold separated
    cases hi : item ts with
    | error f => exact .fails hi
    | ok read =>
      obtain ⟨a, rest⟩ := read
      have hle := hitem hi
      obtain rfl : rest = [] := List.length_eq_zero_iff.mp (by omega)
      exact .last hi rfl
  | succ budget ih =>
    unfold separated
    cases hi : item ts with
    | error f => exact .fails hi
    | ok read =>
      obtain ⟨a, rest⟩ := read
      have hle := hitem hi
      dsimp only [bind, Except.bind]
      cases hs : separator? rest with
      | none => exact .last hi hs
      | some rest' =>
        obtain ⟨t, rfl⟩ := Tokens.cons_of_eat? hs
        simp only [List.length_cons] at hle
        exact .more hi hs (ih (by omega))

end Loops

/-- **The loops of the parsers of a level run to their end.** -/
structure Line.LoopsEnd (line : Line) (nested : Level) : Prop where
  folds : ∀ reading left ts, ChainRuns (fold? reading) (foldStep line nested.primary) left ts
    (chain (fold? reading) (foldStep line nested.primary) ts.length left ts)
  comparisons : ∀ left ts,
    ChainRuns comparisonSign? (joinStep compareWith (negated line nested.primary)) left ts
      (comparisonsFrom line nested.primary left ts)
  conjunctions : ∀ left ts,
    ChainRuns (connective? isAnd)
      (joinStep (connectBy .and) (Line.comparisons line nested.primary)) left ts
      (conjunctionFrom line nested.primary left ts)
  disjunctions : ∀ left ts,
    ChainRuns (connective? isOr) (joinStep (connectBy .or) (conjunction line nested.primary))
      left ts (disjunctionFrom line nested.primary left ts)
  sets : ∀ element left ts,
    let step := joinStep uniteBy (collectionOperand line nested.primary element)
    ChainRuns setOperator? step left ts (chain setOperator? step ts.length left ts)
  items : ∀ ts, ListRuns line .unterminatedCollection (Line.comparisons line nested.primary) ts
    (separated line .unterminatedCollection (Line.comparisons line nested.primary) ts.length ts)
  bindings : ∀ ts, ListRuns line .unterminatedBindings (line.binding nested) ts
    (separated line .unterminatedBindings (line.binding nested) ts.length ts)

/-- The parsers of each level, with some others in the place of level zero. -/
def Line.levelOver (line : Line) (base : Level) : Nat → Level
  | 0 => base
  | n + 1 =>
    ⟨line.commandOver (levelOver line base n), line.primaryOver (levelOver line base n)⟩

namespace Line

open Correspondence

variable {line : Line}

/-! ### What is taken -/

/-- A line read with itself. -/
abbrev itself (line : Line) : Correspondence line line := line.closed_true.reading

/-- **A level serves as many tokens as its number says**, whatever stands in the place of level
zero. -/
theorem level_serves (line : Line) (base : Level) (n : Nat) :
    (line.level n).FollowedBy line.itself n (line.levelOver base n) := by
  induction n with
  | zero =>
    -- no list has fewer tokens than none
    exact ⟨fun _ h => absurd h (Nat.not_lt_zero _), fun _ h => absurd h (Nat.not_lt_zero _)⟩
  | succ n ih => exact follows_succ ih

section Taken

variable {α β : Type} {least : Nat} {V : α → α → Prop} {U : β → β → Prop} {ts rest : Tokens}

theorem exists_taken {r r' : Except Fault (α × Tokens)} {a : α}
    (h : line.itself.Follows (ts.length + 1) least V ts r r') (hr : r = .ok (a, rest)) :
    ∃ taken, ts = taken ++ rest ∧ least ≤ taken.length := by
  subst hr
  cases h (Nat.lt_succ_self _) with
  | ok hleast => exact ⟨_, rfl, hleast⟩

theorem length_le_of_follows {r r' : Except Fault (α × Tokens)} {a : α}
    (h : line.itself.Follows (ts.length + 1) least V ts r r') (hr : r = .ok (a, rest)) :
    rest.length ≤ ts.length := by
  obtain ⟨taken, rfl, -⟩ := exists_taken h hr
  rw [List.length_append]
  exact Nat.le_add_left _ _

theorem cons_of_findsAlike {o : Option (β × Tokens)} {b : β}
    (h : line.itself.FindsAlike U ts o o) (ho : o = some (b, rest)) : ∃ t, ts = t :: rest := by
  rcases h with ⟨hnone, -⟩ | ⟨t, found, _, c, _, hts, hsome, -⟩
  · cases hnone.symm.trans ho
  · cases hsome.symm.trans ho
    exact ⟨t, hts⟩

theorem foldsAlike_refl (fold : Fold) : line.itself.FoldsAlike fold fold := by
  cases fold with
  | math operator => exact .math operator
  | concat => exact .concat
  | set additive => exact .set additive
  | ambiguous operator column => exact .ambiguous operator rfl

/-- What a step of a chain leaves is no more than it got. -/
theorem length_le_of_joinStep {join : Param → β → Param → Param}
    {operand : Tokens → Except Fault (Param × Tokens)} {U : Param → Param → Prop}
    (ho : ∀ size {ts ts'}, line.itself.tokens ts ts' →
      line.itself.Follows size 1 U ts (operand ts) (operand ts')) {left : Param} {b : β} {p : Param}
    (h : joinStep join operand left b ts = .ok (p, rest)) : rest.length ≤ ts.length := by
  have hstep : line.itself.Follows (ts.length + 1) 0 (fun _ _ => True) ts
      (joinStep join operand left b ts) (joinStep join operand left b ts) :=
    follows_joinStep _ (fun _ _ _ => trivial) (ho _) trivial rfl rfl
  exact length_le_of_follows hstep h

end Taken

theorem level_loopsEnd (line : Line) (n : Nat) : line.LoopsEnd (line.level n) := by
  have hn : ∀ size, (line.level n).FollowedBy line.itself size (line.level n) :=
    line.closed_true.follows_level n
  refine
    { folds := fun reading left ts => chainRuns (fun h => ?_) (fun h => ?_) (Nat.le_refl _) left
      comparisons := fun left ts => chainRuns (fun h => ?_) (fun h => ?_) (Nat.le_refl _) left
      conjunctions := fun left ts => chainRuns (fun h => ?_) (fun h => ?_) (Nat.le_refl _) left
      disjunctions := fun left ts => chainRuns (fun h => ?_) (fun h => ?_) (Nat.le_refl _) left
      sets := fun element left ts => chainRuns (fun h => ?_) (fun h => ?_) (Nat.le_refl _) left
      items := fun ts => listRuns (fun h => ?_) (Nat.le_refl _)
      bindings := fun ts => listRuns (fun h => ?_) (Nat.le_refl _) }
  -- each operator is a token, and each step leaves no more tokens than it got
  · exact cons_of_findsAlike (line.itself.fold?_alike reading ⟨⟨rfl, trivial⟩, rfl⟩ rfl) h
  · exact length_le_of_follows
      (follows_foldStep (hn _).primary ⟨⟨rfl, trivial⟩, rfl⟩ (foldsAlike_refl _) rfl) h
  · exact cons_of_findsAlike (line.itself.comparisonSign?_alike rfl) h
  · exact length_le_of_joinStep (fun size => follows_negated (hn size).primary) h
  · exact cons_of_findsAlike (line.itself.connective?_alike isAnd rfl rfl) h
  · exact length_le_of_joinStep (fun size => follows_comparisons (hn size).primary) h
  · exact cons_of_findsAlike (line.itself.connective?_alike isOr rfl rfl) h
  · exact length_le_of_joinStep (fun size => follows_conjunction (hn size).primary) h
  · exact cons_of_findsAlike (line.itself.setOperator?_alike rfl) h
  · exact length_le_of_joinStep (fun size => follows_collectionOperand (hn size).primary element) h
  · exact length_le_of_follows (follows_comparisons (hn _).primary rfl) h
  · exact length_le_of_follows (follows_binding (hn _) rfl) h

/-! ### Progress -/

/-- **A parser that makes progress.** What it leaves stands behind the tokens it took, so many at
least; and over the level above the number of the tokens it reads the same whatever stands in the
place of level zero. -/
structure Progress {α : Type} (line : Line) (least : Nat)
    (parse : Level → Tokens → Except Fault (α × Tokens)) : Prop where
  advances : ∀ n ts a rest, parse (line.level n) ts = .ok (a, rest) →
    ∃ taken, ts = taken ++ rest ∧ least ≤ taken.length
  ends : ∀ base n ts, ts.length < n → parse (line.levelOver base n) ts = parse (line.level n) ts

theorem progress_of_follows {α : Type} {least : Nat} {V : α → α → Prop}
    {parse : Level → Tokens → Except Fault (α × Tokens)} (hV : ∀ {a a'}, V a a' → a' = a)
    (h : ∀ {size nested nested'}, Level.FollowedBy line.itself size nested nested' →
      ∀ ts, line.itself.Follows size least V ts (parse nested ts) (parse nested' ts)) :
    line.Progress least parse where
  advances n ts _ _ hr := exists_taken (h (line.closed_true.follows_level n _) ts) hr
  ends base n ts hts := by
    have hserves := h (line.level_serves base n) ts hts
    generalize parse (line.level n) ts = r, parse (line.levelOver base n) ts = r' at hserves ⊢
    cases hserves with
    | ok _ ha hrest =>
      cases hV ha
      cases hrest
      rfl
    | error _ hsame => exact hsame trivial

theorem eq_of_operand {o o' : Operand} (h : line.itself.operand o o') : o' = o := by
  obtain ⟨p, kind⟩ := o
  obtain ⟨p', kind'⟩ := o'
  obtain ⟨⟨rfl, -⟩, rfl⟩ := h
  rfl

theorem eq_of_shaped {shape : Param → Prop} {p p' : Param} (h : line.itself.shaped shape p p') :
    p' = p := h.1.1

/-- **The parsers make progress.** Those that read on behind an operand may take no token. -/
structure ParsersProgress (line : Line) : Prop where
  command : line.Progress 1 fun nested => nested.command
  primary : line.Progress 1 fun nested => nested.primary
  valueExpr : ∀ reading, line.Progress 1 fun nested => valueExpr line nested.primary reading
  valueSlot : line.Progress 1 fun nested => valueSlot line nested.primary
  conditionSlot : line.Progress 1 fun nested => conditionSlot line nested.primary
  disjunction : line.Progress 1 fun nested => disjunction line nested.primary
  conjunction : line.Progress 1 fun nested => conjunction line nested.primary
  comparisons : line.Progress 1 fun nested => comparisons line nested.primary
  negated : line.Progress 1 fun nested => negated line nested.primary
  collectionSlot : ∀ element,
    line.Progress 1 fun nested => collectionSlot line nested.primary element
  collectionLiteral : ∀ element,
    line.Progress 1 fun nested => collectionLiteral line nested.primary element
  bindingList : line.Progress 1 fun nested => line.bindingList nested
  comparisonsFrom : ∀ left,
    line.Progress 0 fun nested => comparisonsFrom line nested.primary left
  conjunctionFrom : ∀ left,
    line.Progress 0 fun nested => conjunctionFrom line nested.primary left
  disjunctionFrom : ∀ left,
    line.Progress 0 fun nested => disjunctionFrom line nested.primary left
  conditionFrom : ∀ left, line.Progress 0 fun nested => conditionFrom line nested.primary left

theorem parsersProgress (line : Line) : line.ParsersProgress where
  command := progress_of_follows And.left fun hn _ => hn.command rfl
  primary := progress_of_follows eq_of_operand fun hn _ => hn.primary rfl
  valueExpr reading :=
    progress_of_follows eq_of_operand fun hn _ => follows_valueExpr hn.primary reading rfl
  valueSlot := progress_of_follows And.left fun hn _ => follows_valueSlot hn.primary rfl
  conditionSlot := progress_of_follows eq_of_shaped fun hn _ => follows_conditionSlot hn.primary rfl
  disjunction := progress_of_follows And.left fun hn _ => follows_disjunction hn.primary rfl
  conjunction := progress_of_follows And.left fun hn _ => follows_conjunction hn.primary rfl
  comparisons := progress_of_follows And.left fun hn _ => follows_comparisons hn.primary rfl
  negated := progress_of_follows And.left fun hn _ => follows_negated hn.primary rfl
  collectionSlot element :=
    progress_of_follows eq_of_shaped fun hn _ => follows_collectionSlot hn.primary element rfl
  collectionLiteral element :=
    progress_of_follows eq_of_shaped fun hn _ => follows_collectionLiteral hn.primary element rfl
  bindingList := progress_of_follows eq_of_shaped fun hn _ => follows_bindingList hn rfl
  comparisonsFrom _ := progress_of_follows And.left fun hn _ =>
    follows_comparisonsFrom hn.primary ⟨rfl, trivial⟩ rfl
  conjunctionFrom _ := progress_of_follows And.left fun hn _ =>
    follows_conjunctionFrom hn.primary ⟨rfl, trivial⟩ rfl
  disjunctionFrom _ := progress_of_follows And.left fun hn _ =>
    follows_disjunctionFrom hn.primary ⟨rfl, trivial⟩ rfl
  conditionFrom _ := progress_of_follows And.left fun hn _ =>
    follows_conditionFrom hn.primary ⟨rfl, trivial⟩ rfl

end Line

/-! ### Places in the text -/

namespace Text

theorem dropBytes_append (before after : List Char) :
    dropBytes (byteLength before) (before ++ after) = after := by
  induction before with
  | nil => cases after <;> rfl
  | cons c cs ih =>
    have hlength : byteLength (c :: cs) = c.utf8Size + byteLength cs := rfl
    obtain ⟨k, hk⟩ := Nat.exists_eq_add_of_lt c.utf8Size_pos
    have hpos : byteLength (c :: cs) = byteLength cs + k + 1 := by omega
    rw [hpos, List.cons_append]
    show dropBytes (byteLength cs + k + 1 - c.utf8Size) (cs ++ after) = after
    rw [show byteLength cs + k + 1 - c.utf8Size = byteLength cs by omega, ih]

end Text

namespace Token

theorem ofLine_starts_between {number : Nat} {text : List Char} {ts : Tokens}
    (h : ofLine number text = .ok ts) {t : Token} (ht : t ∈ ts) :
    ∃ before after, text = before ++ after ∧ t.start = Text.byteLength before := by
  obtain ⟨before, after, htext, hstart⟩ := (pieces_of_readFrom h).starts_between ht
  exact ⟨before, after, htext, hstart.trans (Nat.zero_add _)⟩

end Token

namespace Line

variable {line : Line}

/-- Reading a line with some others in the place of the lowest parsers. -/
def parseOver (line : Line) (base : Level) : Except Fault Command := do
  let tokens ← Token.ofLine line.number line.text
  let (command, rest) ← (line.levelOver base (tokens.length + 1)).command tokens
  match rest.dropWhile (·.kind.isSymbol ':') with
  | [] => return command
  | t :: _ => throw (line.fault (.trailingText (line.textFrom t)))

theorem parseOver_eq (line : Line) (base : Level) : line.parseOver base = line.parse := by
  have hlevel : ∀ tokens : Tokens, (line.levelOver base (tokens.length + 1)).command tokens =
      (line.level (tokens.length + 1)).command tokens := fun tokens =>
    line.parsersProgress.command.ends base _ tokens (Nat.lt_succ_self _)
  unfold parseOver
  simp only [hlevel]
  rfl

theorem textFrom_of_starts {before after : List Char} {t : Token}
    (htext : line.text = before ++ after) (hstart : t.start = Text.byteLength before) :
    line.textFrom t = String.ofList (Text.trim after) := by
  unfold textFrom
  rw [htext, hstart, Text.dropBytes_append]

/-- **The grammar makes progress, and reading comes to an end within the line.** Every parser takes
its tokens from the front, asks the lowest level for nothing, and its loops run to their end. So a
line is read the same with any parsers in the place of the lowest. Tokens start between two
characters, and so does what a fault quotes of the line. -/
theorem parsers_make_progress (line : Line) :
    line.ParsersProgress ∧ (∀ n, line.LoopsEnd (line.level n)) ∧
      (∀ base, line.parseOver base = line.parse) ∧
      (∀ tokens, Token.ofLine line.number line.text = .ok tokens → ∀ t ∈ tokens,
        ∃ before after, line.text = before ++ after ∧ t.start = Text.byteLength before) ∧
      ∀ f rest, line.parse = .error f → f.cause.quoted? = some rest →
        ∃ before after, line.text = before ++ after ∧ rest = String.ofList (Text.trim after) := by
  refine ⟨line.parsersProgress, line.level_loopsEnd, line.parseOver_eq,
    fun tokens h t ht => Token.ofLine_starts_between h ht, fun f rest hf hrest => ?_⟩
  obtain ⟨tokens, htokens, t, ht, rfl⟩ := quotesFrom_of_parse hf hrest
  obtain ⟨before, after, htext, hstart⟩ := Token.ofLine_starts_between htokens ht
  exact ⟨before, after, htext, textFrom_of_starts htext hstart⟩

/-- A sum with a bracket in the place of its right operand. -/
def unfinishedSum : Line := ⟨Registry.builtin, "RETURN: 1 + ] \"RÉ\"".toList, 0⟩

theorem parsers_make_progress_unfinishedSum :
    unfinishedSum.parse = .error (unfinishedSum.fault (.unexpected "a value" "] \"RÉ\"")) ∧
      ∃ before after, unfinishedSum.text = before ++ after ∧
        "] \"RÉ\"" = String.ofList (Text.trim after) := by
  have hparse : unfinishedSum.parse =
      .error (unfinishedSum.fault (.unexpected "a value" "] \"RÉ\"")) := by
    with_unfolding_all rfl
  obtain ⟨-, -, -, -, hquotes⟩ := unfinishedSum.parsers_make_progress
  exact ⟨hparse, hquotes _ _ hparse rfl⟩

end Line

end StageScript
