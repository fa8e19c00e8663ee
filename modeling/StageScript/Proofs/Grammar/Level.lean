import StageScript.Proofs.Grammar.WellFormed
import StageScript.Proofs.Syntax.Column

/-!
# The same tokens are read alike

Three things do not matter to what is read from tokens: where in the line they stand, how deep the
parsers are, and the text of the line, from which only faults quote. The parsers of a level call on
those of the level below, and the level a line is read with is set by the number of its tokens.

`Moved` relates tokens of the same kinds at other places. Two of them must stay side by side if they
are, since a minus sign belongs to the number directly behind it. From moved tokens every parser of
a higher level reads the same up to columns, whatever the text of the line (`Line.moved`).

And in front of a closing parenthesis the same tokens are read just as without it, with whatever
stands behind it (`Line.inFrontOf`). For no parser takes a `)` but the one that has taken the `(` to
it, and where the tokens end a parser stops as it does in front of a `)`.
-/

namespace StageScript

/-! ### Tokens at other places -/

/-- **The same tokens at other places**, side by side where they were. -/
inductive Moved : Tokens → Tokens → Prop
  | nil : Moved [] []
  | cons {t t' : Token} {ts ts' : Tokens} (hkind : t'.kind = t.kind)
    (htouches : t'.touches ts' = t.touches ts) (h : Moved ts ts') : Moved (t :: ts) (t' :: ts')

namespace Moved

variable {ts ts' : Tokens}

theorem refl (ts : Tokens) : Moved ts ts := by
  induction ts with
  | nil => exact .nil
  | cons t ts ih => exact .cons rfl rfl ih

theorem nextIs (h : Moved ts ts') (p : TokenKind → Bool) : ts'.nextIs p = ts.nextIs p := by
  cases h with
  | nil => rfl
  | cons hkind _ _ => simp only [Tokens.nextIs, hkind]

theorem dropWhile_eq_nil {p : TokenKind → Bool} (h : Moved ts ts')
    (hts : ts.dropWhile (p ·.kind) = []) : ts'.dropWhile (p ·.kind) = [] := by
  induction h with
  | nil => rfl
  | @cons t _ _ _ hkind _ _ ih =>
    cases hp : p t.kind with
    | false => simp [hp] at hts
    | true =>
      simp only [List.dropWhile_cons, hp, if_true] at hts
      simp only [List.dropWhile_cons, hkind, hp, if_true, ih hts]

end Moved

/-- The line with another text, from which its faults quote. -/
def Line.withText (line : Line) (text : List Char) : Line := { line with text }

theorem Line.withText_registry (line : Line) (text : List Char) :
    (line.withText text).registry = line.registry := rfl

/-- Lists with the same unplaced forms. -/
theorem unplacedItems_of_forall₂ {ps ps' : List Param}
    (h : List.Forall₂ (fun p p' => p'.unplaced = p.unplaced) ps ps') :
    unplacedItems ps' = unplacedItems ps := by
  induction h with
  | nil => rfl
  | cons hp _ ih => rw [unplacedItems, unplacedItems, hp, ih]

theorem unplacedOption_of_rel {o o' : Option Param}
    (h : Option.Rel (fun p p' => p'.unplaced = p.unplaced) o o') :
    unplacedOption o' = unplacedOption o := by
  cases h with
  | none => rfl
  | some hp => rw [unplacedOption, unplacedOption, hp]

theorem unplacedBindings_of_forall₂ {P : String × Param → Prop} {list list' : List (String × Param)}
    (h : List.Forall₂ (fun b b' => b'.1 = b.1 ∧ P b ∧ b'.2.unplaced = b.2.unplaced) list list') :
    unplacedBindings list' = unplacedBindings list := by
  induction h with
  | nil => rfl
  | @cons b b' _ _ hb _ ih =>
    obtain ⟨name, p⟩ := b
    obtain ⟨name', p'⟩ := b'
    obtain ⟨rfl, -, hp⟩ := hb
    rw [unplacedBindings, unplacedBindings, unplacedBinding, unplacedBinding, hp, ih]

namespace Line

/-! ### Columns and texts -/

/-- **Params and commands that are the same up to columns.** -/
theorem relates_unplaced (line : Line) (text : List Char) :
    line.Relates (line.withText text) (fun _ _ => True) (fun p p' => p'.unplaced = p.unplaced)
      fun c c' => c'.unplaced = c.unplaced where
  isCondition_eq h := by rw [← Param.isCondition_unplaced, h, Param.isCondition_unplaced]
  kind_eq h := by
    rw [withText_registry, ← StaticKind.ofParam_unplaced, h, StaticKind.ofParam_unplaced]
  literal _ := rfl
  name _ := rfl
  loopIndex := rfl
  loopObject := rfl
  absent := rfl
  command h := by rw [Param.unplaced, Param.unplaced, h]
  bindings h := by rw [Param.unplaced, Param.unplaced, unplacedBindings_of_forall₂ h]
  collection _ h := by rw [Param.unplaced, Param.unplaced, unplacedItems_of_forall₂ h]
  math hl hr := by rw [Param.unplaced, Param.unplaced, hl, unplacedOption_of_rel hr]
  concat hl hr := by rw [Param.unplaced, Param.unplaced, hl, hr]
  union hl hr := by rw [Param.unplaced, Param.unplaced, hl, hr]
  difference hl hr := by rw [Param.unplaced, Param.unplaced, hl, hr]
  condition hl hr := by rw [Param.unplaced, Param.unplaced, hl, unplacedOption_of_rel hr]
  ambiguous _ hl hr := by
    rw [Param.unplaced, Param.unplaced, hl, hr]
    rfl
  params := by
    rintro ⟨name, params, number⟩ ⟨name', params', number'⟩ hname hline hline' _ hparams
    dsimp only at hname hline hline' hparams
    subst hname hline hline'
    rw [Command.unplaced, Command.unplaced, unplacedItems_of_forall₂ hparams]
    rfl

/-- **Reading moved tokens**, whatever the text of the line. -/
def moved (line : Line) (text : List Char) : Correspondence line (line.withText text) where
  tokens := Moved
  words _ := True
  columns _ _ := True
  param p p' := p'.unplaced = p.unplaced
  command c c' := c'.unplaced = c.unplaced
  SameFaults := False
  relates := line.relates_unplaced text
  number_eq := rfl
  next h := by
    cases h with
    | nil => exact .ends (.inl rfl)
    | cons hkind htouches h =>
      exact .cons hkind (fun _ _ => trivial) trivial (fun _ => htouches) h
  signature?_eq _ := rfl
  signature?_of_some h := h
  line_eq h := h.elim
  tokens_eq h := h.elim

/-- **What a level reads, every higher level reads alike**, at any places and whatever the text of
the line. -/
theorem follows_moved (line : Line) (text : List Char) {n m : Nat} (h : n ≤ m) (size : Nat) :
    (line.level n).FollowedBy (line.moved text) size ((line.withText text).level m) :=
  (line.moved text).follows_level h False.elim size

section Level

variable {line : Line} (text : List Char) {n m : Nat} (h : n ≤ m) {ts ts' rest : Tokens}
  (hts : Moved ts ts')
include h hts

theorem primary_of_level {o : Operand} (hread : (line.level n).primary ts = .ok (o, rest)) :
    ∃ o' rest', ((line.withText text).level m).primary ts' = .ok (o', rest') ∧
      Moved rest rest' := by
  obtain ⟨o', rest', hread', -, hrest⟩ :=
    ((line.follows_moved text h _).primary hts).exists_of_ok hread
  exact ⟨o', rest', hread', hrest⟩

theorem valueSlot_of_level {p : Param}
    (hread : line.valueSlot (line.level n).primary ts = .ok (p, rest)) :
    ∃ p' rest', (line.withText text).valueSlot ((line.withText text).level m).primary ts' =
      .ok (p', rest') ∧ p'.unplaced = p.unplaced ∧ Moved rest rest' :=
  (Correspondence.follows_valueSlot (line.follows_moved text h _).primary hts).exists_of_ok hread

theorem conditionSlot_of_level {p : Param}
    (hread : line.conditionSlot (line.level n).primary ts = .ok (p, rest)) :
    ∃ p' rest', (line.withText text).conditionSlot ((line.withText text).level m).primary ts' =
      .ok (p', rest') ∧ p'.unplaced = p.unplaced ∧ Moved rest rest' := by
  obtain ⟨p', rest', hread', hp, hrest⟩ := (Correspondence.follows_conditionSlot
    (line.follows_moved text h _).primary hts).exists_of_ok hread
  exact ⟨p', rest', hread', hp.1, hrest⟩

end Level

/-! ### In front of a parenthesis -/

/-- **Reading in front of a closing parenthesis.** -/
def inFrontOf (line : Line) {tail : Tokens} (htail : tail.Closes) : Correspondence line line :=
  line.closed_true.readingOf (fun ts ts' => ts' = ts ++ tail)
    (by
      rintro ts _ rfl
      cases ts with
      | nil => exact .ends (.inr htail)
      | cons t ts =>
        refine .cons rfl (fun _ _ => trivial) rfl (fun hne => ?_) rfl
        cases ts with
        | nil => exact absurd rfl hne
        | cons u ts => rfl)
    False fun h => h.elim

/-- **A value that is read to its end is read in front of a closing parenthesis too**, by every
higher level. -/
theorem valueSlot_inFrontOf {line : Line} {tail : Tokens} (htail : tail.Closes) {n m : Nat}
    (h : n ≤ m) {ts rest : Tokens} {p : Param}
    (hread : line.valueSlot (line.level n).primary ts = .ok (p, rest)) :
    line.valueSlot (line.level m).primary (ts ++ tail) = .ok (p, rest ++ tail) := by
  have hlevel := (line.inFrontOf htail).follows_level h False.elim (ts.length + 1)
  obtain ⟨_, _, hread', ⟨rfl, -⟩, rfl⟩ :=
    (Correspondence.follows_valueSlot hlevel.primary rfl).exists_of_ok hread
  exact hread'

end Line

end StageScript
