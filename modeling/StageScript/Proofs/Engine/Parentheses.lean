import StageScript.Proofs.Engine.Agreement

/-!
# Conditions in parentheses

A condition may be put in parentheses as a whole. What stands between them is read by other rules,
those of a slot for any value: it starts as an expression, in which `&` and `AND` join values, and
turns into a condition where a comparison or `OR` follows or where a truth value was read. Both ways
the same condition is read (`conditionSlot_in_parentheses`), unless an `AND` stands behind a first
operand that is not known to be a truth value (`Line.opensWithJoin`). In parentheses such an `AND`
is an operator of the expression and binds like one (`parentheses_change_conditions`).

That the tokens are read to the closing parenthesis, and no further, is the matter of
`Line.inFrontOf`.
-/

namespace StageScript

/-! ### Two readings of an expression -/

theorem Sign.ofToken?_of_not_and {t : TokenKind} (h : isAnd t = false) :
    Sign.ofToken? .value t = Sign.ofToken? .logical t := by
  cases t with
  | number | text => rfl
  | symbol c =>
    simp only [Sign.ofToken?, Sign.ofSymbol?]
    split <;> first | rfl | cases h
  | word w =>
    simp only [Sign.ofToken?, Sign.ofWord?]
    split <;> first | rfl | cases h

/-- The two readings differ in an `AND` only, and in it only where it could join values. -/
theorem fold?_value_eq {left : Operand} {ts : Tokens}
    (h : left.kind = .boolean ∨ ts.nextIs isAnd = false) :
    fold? .value left ts = fold? .logical left ts := by
  rcases h with hkind | hand
  · obtain ⟨p, kind⟩ := left
    cases hkind
    rw [fold?_boolean, fold?_boolean]
  · cases ts with
    | nil => rfl
    | cons t ts =>
      have hsign : Sign.ofToken? .value t.kind = Sign.ofToken? .logical t.kind :=
        Sign.ofToken?_of_not_and hand
      simp only [fold?, hsign]

/-- An operator of a logical expression is one of any expression. -/
theorem fold?_value_of_logical {left : Operand} {ts ts' : Tokens} {fold : Fold}
    (h : fold? .logical left ts = some (fold, ts')) :
    fold? .value left ts = some (fold, ts') := by
  obtain ⟨t, sign, rfl, hsign, -⟩ := fold?_eq_some h
  rw [fold?_value_eq (.inr ?_), h]
  cases hand : isAnd t.kind with
  | false => exact hand
  | true => rcases isAnd_cases hand with heq | heq <;> rw [heq] at hsign <;> cases hsign

namespace Line

variable {line : Line} {primary : Tokens → Except Fault (Operand × Tokens)} {ts rest : Tokens}

/-- Operators that are read logically are read alike as operators of any expression, up to where no
`AND` goes on that could join values. -/
theorem chain_value_of_logical {budget : Nat} {o left : Operand}
    (hends : left.kind = .boolean ∨ rest.nextIs isAnd = false)
    (hread : chain (fold? .logical) (line.foldStep primary) budget o ts = .ok (left, rest)) :
    chain (fold? .value) (line.foldStep primary) budget o ts = .ok (left, rest) := by
  induction budget generalizing o ts with
  | zero => exact hread
  | succ budget ih =>
    cases hfold : fold? .logical o ts with
    | none =>
      rw [chain_of_none hfold] at hread
      cases hread
      exact chain_of_none ((fold?_value_eq hends).trans hfold) _
    | some found =>
      obtain ⟨fold, ts'⟩ := found
      obtain ⟨o', ts'', hstep, hread⟩ := exists_of_chain hfold hread
      rw [chain_of_some (fold?_value_of_logical hfold) hstep]
      exact ih hread

theorem valueExpr_value_of_logical {left : Operand}
    (hread : line.valueExpr primary .logical ts = .ok (left, rest))
    (hends : left.kind = .boolean ∨ rest.nextIs isAnd = false) :
    line.valueExpr primary .value ts = .ok (left, rest) := by
  obtain ⟨⟨o, ts'⟩, hprimary, hread⟩ := exists_of_bind hread
  unfold valueExpr
  rw [hprimary]
  exact chain_value_of_logical hends hread

/-! ### Two ways to read a condition -/

/-- Whether a condition goes on behind an operand. -/
def connects (t : TokenKind) : Bool := (comparator? t).isSome || isOr t || isAnd t

/-- A condition that does not go on is the operand alone. -/
theorem conditionFrom_of_ends (left : Param) (h : ts.nextIs connects = false) :
    line.conditionFrom primary left ts = .ok (left, ts) := by
  have hnone : comparisonSign? left ts = none ∧ connective? isAnd left ts = none ∧
      connective? isOr left ts = none := by
    cases ts with
    | nil => exact ⟨rfl, rfl, rfl⟩
    | cons t ts =>
      have ht : (comparator? t.kind = none ∧ isOr t.kind = false) ∧ isAnd t.kind = false := by
        simpa [Tokens.nextIs, connects] using h
      simp [comparisonSign?, connective?, Tokens.eat?, ht]
  obtain ⟨hcomparison, hand, hor⟩ := hnone
  unfold conditionFrom comparisonsFrom conjunctionFrom disjunctionFrom
  rw [chain_of_none hcomparison]
  dsimp only [bind, Except.bind]
  rw [chain_of_none hand]
  exact chain_of_none hor _

/-- A condition without a negation in front is an operand and what follows it. -/
theorem disjunction_eq (hnot : ts.nextIs isNot = false) :
    line.disjunction primary ts =
      line.valueExpr primary .logical ts >>= fun read =>
        line.conditionFrom primary read.1.param read.2 := by
  unfold disjunction conjunction comparisons conditionFrom
  rw [negated_of_not hnot]
  simp only [bind_assoc, pure_bind]

/-- **Whether a condition opens with an `AND` that could join values**: one that stands behind its
first operand, if nothing says that this is a truth value. -/
def opensWithJoin (line : Line) (primary : Tokens → Except Fault (Operand × Tokens))
    (ts : Tokens) : Bool :=
  !ts.nextIs startsCondition &&
    match line.valueExpr primary .logical ts with
    | .ok (left, rest) => left.kind != .boolean && rest.nextIs isAnd
    | .error _ => false

/-- **Any other condition is read by a slot for any value**, as it is by a slot for a condition. -/
theorem valueSlot_of_disjunction {p : Param} (hread : line.disjunction primary ts = .ok (p, rest))
    (hjoin : line.opensWithJoin primary ts = false) :
    line.valueSlot primary ts = .ok (p, rest) := by
  unfold valueSlot
  unfold opensWithJoin at hjoin
  cases hstart : ts.nextIs startsCondition with
  | true => exact hread
  | false =>
    have hnot : ts.nextIs isNot = false := by
      cases ts with
      | nil => rfl
      | cons t ts => exact (Bool.or_eq_false_iff.mp (Bool.or_eq_false_iff.mp hstart).1).1
    rw [disjunction_eq hnot] at hread
    obtain ⟨⟨left, ts'⟩, hleft, hread⟩ := exists_of_bind hread
    have hends : left.kind = .boolean ∨ ts'.nextIs isAnd = false := by
      rw [hleft, hstart] at hjoin
      simpa [or_iff_not_imp_left] using hjoin
    have hvalue := valueExpr_value_of_logical hleft hends
    simp only [hvalue, bind, Except.bind, Bool.false_eq_true, if_false]
    split
    · exact hread
    · next hfollows =>
      -- nothing follows an operand that is no truth value
      obtain ⟨hkind, hfollows⟩ : left.kind ≠ .boolean ∧ conditionFollows ts' = false := by
        simpa using hfollows
      have hconnects : ts'.nextIs connects = false := by
        have hand := hends.resolve_left hkind
        cases ts' with
        | nil => rfl
        | cons t ts => exact Bool.or_eq_false_iff.mpr ⟨hfollows, hand⟩
      exact (conditionFrom_of_ends left.param hconnects).symm.trans hread

/-! ### A primary in parentheses -/

/-- Nothing that could go on stands at the end of a slot. -/
theorem nextIs_of_atParamEnd {p : TokenKind → Bool} (h : ts.atParamEnd = true)
    (hp : ([':', ')', ']', ','].any fun c => p (.symbol c)) = false) : ts.nextIs p = false := by
  cases ts with
  | nil => rfl
  | cons t ts =>
    obtain ⟨kind, start, stop⟩ := t
    cases kind with
    | word | number | text => cases h
    | symbol c =>
      have hc : c ∈ [':', ')', ']', ','] := by simpa [Tokens.atParamEnd, or_assoc] using h
      exact (Bool.not_eq_true _).mp (List.any_eq_false.mp hp c hc)

/-- A condition of one primary, at the end of a slot. -/
theorem disjunction_of_primary {o : Operand} (hnot : ts.nextIs isNot = false)
    (hprimary : primary ts = .ok (o, rest)) (hrest : rest.atParamEnd = true) :
    line.disjunction primary ts = .ok (o.param, rest) := by
  have hsign := nextIs_of_atParamEnd (p := isSign .logical) hrest (by decide)
  have hconnects := nextIs_of_atParamEnd (p := connects) hrest (by decide)
  have hvalue : line.valueExpr primary .logical ts = .ok (o, rest) := by
    unfold valueExpr
    rw [hprimary]
    exact chain_of_none (fold?_eq_none hsign) _
  rw [disjunction_eq hnot, hvalue]
  exact conditionFrom_of_ends o.param hconnects

theorem primaryOver_in_parentheses {nested : Level} {opening closing : Token} {after : Tokens}
    {p : Param} (hopening : opening.kind = .symbol '(') (hclosing : closing.kind = .symbol ')')
    (hread : line.valueSlot nested.primary ts = .ok (p, closing :: after)) :
    line.primaryOver nested (opening :: ts) = .ok (⟨p, .ofParam line.registry p⟩, after) := by
  have heat : Tokens.eat? (·.isSymbol ')') (closing :: after) = some after := by
    simp [Tokens.eat?, hclosing, TokenKind.isSymbol]
  unfold primaryOver
  simp only [hopening, hread, bind, Except.bind, heat]
  rfl

/-- A slot for a condition reads conditions, and tests any other operand for its truth. -/
theorem conditionSlot_eq_ok {p : Param} : line.conditionSlot primary ts = .ok (p, rest) ↔
    ∃ condition, line.disjunction primary ts = .ok (condition, rest) ∧
      p = if condition.isCondition then condition else .condition .identity condition none := by
  constructor
  · intro h
    obtain ⟨⟨condition, rest'⟩, hcondition, h⟩ := exists_of_bind h
    dsimp only at h
    split at h <;> cases h
    · next his => exact ⟨p, hcondition, by rw [if_pos his]⟩
    · next hnot => exact ⟨condition, hcondition, by rw [if_neg hnot]⟩
  · rintro ⟨condition, hcondition, rfl⟩
    unfold conditionSlot
    rw [hcondition]
    dsimp only [bind, Except.bind]
    split <;> rfl

/-- **A condition in parentheses is read as the condition itself**, at the end of a slot. -/
theorem conditionSlot_of_parentheses {C after : Tokens} {p : Param} {opening closing : Token}
    {n m : Nat} (hread : line.conditionSlot (line.level n).primary C = .ok (p, []))
    (hjoin : line.opensWithJoin (line.level n).primary C = false)
    (hopening : opening.kind = .symbol '(') (hclosing : closing.kind = .symbol ')')
    (hafter : after.atParamEnd = true) (hlevel : n < m) :
    line.conditionSlot (line.level m).primary (opening :: (C ++ closing :: after)) =
      .ok (p, after) := by
  obtain ⟨m, rfl⟩ : ∃ k, m = k + 1 := ⟨m - 1, by omega⟩
  obtain ⟨condition, hcondition, hp⟩ := conditionSlot_eq_ok.mp hread
  have htail : Tokens.Closes (closing :: after) := ⟨closing, after, rfl, hclosing⟩
  have hvalue : line.valueSlot (line.level m).primary (C ++ closing :: after) =
      .ok (condition, closing :: after) :=
    valueSlot_inFrontOf htail (Nat.le_of_lt_succ hlevel) (valueSlot_of_disjunction hcondition hjoin)
  have hnot : Tokens.nextIs isNot (opening :: (C ++ closing :: after)) = false := by
    simp [Tokens.nextIs, hopening, isNot, TokenKind.isSymbol, TokenKind.isWord]
  refine conditionSlot_eq_ok.mpr ⟨condition, ?_, hp⟩
  exact disjunction_of_primary hnot (primaryOver_in_parentheses hopening hclosing hvalue) hafter

end Line

/-- **Parentheses around a condition change nothing**, if it does not open with an `AND` that could
join values. The tokens of a condition that a slot reads to their end are read within parentheses
too, and what is read is the same condition.

In a text the tokens then stand at other columns, and the columns of open operators with them. So at
all other places a condition is read that, when operators are chosen as they are evaluated, has the
same value or fails with the same error in every state. -/
theorem conditionSlot_in_parentheses {line : Line} {C after : Tokens} {p : Param}
    {opening closing : Token} {n m : Nat}
    (hread : line.conditionSlot (line.level n).primary C = .ok (p, []))
    (hjoin : line.opensWithJoin (line.level n).primary C = false)
    (hopening : opening.kind = .symbol '(') (hclosing : closing.kind = .symbol ')')
    (hafter : after.atParamEnd = true) (hlevel : n < m) :
    line.conditionSlot (line.level m).primary (opening :: (C ++ closing :: after)) =
        .ok (p, after) ∧
      ∀ (text : List Char) (ts : Tokens), Moved (opening :: (C ++ closing :: after)) ts →
        ∃ p' after', (line.withText text).conditionSlot ((line.withText text).level m).primary ts =
            .ok (p', after') ∧ Moved after after' ∧
          ∀ program fuel ctx s, s.choices = .afresh →
            evaluate program (settle program fuel) ctx p' s =
              evaluate program (settle program fuel) ctx p s := by
  have hsame := Line.conditionSlot_of_parentheses hread hjoin hopening hclosing hafter hlevel
  refine ⟨hsame, fun text ts hts => ?_⟩
  obtain ⟨p', after', hread', hp, hafter'⟩ :=
    Line.conditionSlot_of_level text (Nat.le_refl m) hts hsame
  exact ⟨p', after', hread', hafter', fun _ _ _ _ hs => evaluate_of_unplaced_eq hp hs⟩

/-! ### Examples -/

/-- A line with a condition in parentheses. -/
def enclosedLine : Line := plainLine "IF: (A > B & NOT C) : END"

/-- The tokens `A > B & NOT C` of the line. -/
def enclosedTokens : Tokens :=
  [⟨.word "A", 5, 6⟩, ⟨.symbol '>', 7, 8⟩, ⟨.word "B", 9, 10⟩, ⟨.symbol '&', 11, 12⟩,
    ⟨.word "NOT", 13, 16⟩, ⟨.word "C", 17, 18⟩]

/-- What they are read as. -/
def enclosedCondition : Param :=
  .condition .and (.condition .greaterThan (.variable "A") (some (.variable "B")))
    (some (.condition .not (.variable "C") none))

theorem conditionSlot_in_parentheses_comparison :
    enclosedLine.conditionSlot (enclosedLine.level 1).primary enclosedTokens =
        .ok (enclosedCondition, []) ∧
      enclosedLine.conditionSlot (enclosedLine.level 2).primary
          (⟨.symbol '(', 4, 5⟩ :: (enclosedTokens ++ [⟨.symbol ')', 18, 19⟩])) =
        .ok (enclosedCondition, []) := by
  have hread : enclosedLine.conditionSlot (enclosedLine.level 1).primary enclosedTokens =
      .ok (enclosedCondition, []) := by with_unfolding_all rfl
  have hjoin : enclosedLine.opensWithJoin (enclosedLine.level 1).primary enclosedTokens =
      false := by with_unfolding_all rfl
  exact ⟨hread, (conditionSlot_in_parentheses hread hjoin rfl rfl rfl (by decide)).1⟩

/-- The state in which `A` is `FALSE` and `B` is `TRUE` for the program. -/
def oneTrue : State where
  memory := { cells := #[.boolean false, .boolean true] }
  own := { shared := ⟨[("A", 0), ("B", 1)]⟩ }

/-- A command that does `END` on a condition. -/
def endIf (condition : Param) : Command :=
  ⟨"IF", [condition, .command ⟨"END", [], 0⟩, .absent], 0⟩

/-- What `A & NOT B` is read as. -/
def joinedNegation : Param :=
  .condition .and (.variable "A") (some (.condition .not (.variable "B") none))

/-- What `A & B = FALSE` is read as. -/
def joinedComparison : Param :=
  .condition .and (.variable "A")
    (some (.condition .equals (.variable "B") (some (.value (.boolean false)))))

/-- What `(A & B = FALSE)` is read as. -/
def comparedJoin : Param :=
  .condition .equals (.ambiguous ⟨.plus, 0, 7⟩ (.variable "A") (.variable "B"))
    (some (.value (.boolean false)))

/-- **Conditions that open with a join.** In parentheses a `NOT` behind the `AND` is refused; and a
comparison behind it compares what the `AND` gives, so that the answer is another. -/
theorem parentheses_change_conditions :
    ((plainLine "IF: A & NOT B : END").parse = .ok (endIf joinedNegation) ∧
      ∃ f, (plainLine "IF: (A & NOT B) : END").parse = .error f ∧
        f.code = "COMPILE_UNEXPECTED_TOKEN") ∧
    (plainLine "IF: A & B = FALSE : END").parse = .ok (endIf joinedComparison) ∧
    (plainLine "IF: (A & B = FALSE) : END").parse = .ok (endIf comparedJoin) ∧
    ∃ t t',
      evaluate plainProgram (settle plainProgram 1) plainContext joinedComparison oneTrue =
        .ok (.boolean false) t ∧
      evaluate plainProgram (settle plainProgram 1) plainContext comparedJoin oneTrue =
        .ok (.boolean true) t' :=
  ⟨⟨by with_unfolding_all rfl, .on 0 (.reservedValue "NOT"), by with_unfolding_all rfl, rfl⟩,
    by with_unfolding_all rfl, by with_unfolding_all rfl, _, _, rfl, rfl⟩

end StageScript
