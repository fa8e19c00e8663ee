import StageScript.Proofs.Engine.LateChoice
import StageScript.Proofs.Grammar.Level

/-!
# `AND` behind a truth value

A literal truth value starts a condition, in which `&` is `AND`. This `AND` has its answer as soon
as its left operand is `FALSE`, while the operator behind a variable that holds a truth value
evaluates both operands; and it binds less tightly than comparisons, while the operator behind the
variable binds from the left. So the two are compared where operands joined by `AND` stand to the
right (`Conjoined`), up to the end of the slot or an `OR`. There the slot with the variable may go
on where the one with the literal has its answer (`ShortCircuits`, `Conjoined.chain`). From the
first `OR` on both have the same operands again (`Param.orElse`, `Conjoined.valueSlot`).
-/

namespace StageScript

/-! ### Truth values -/

/-- **The second run goes on where the first has its answer.** The runs have the same result; or the
first answers `no` and the second, if it answers at all, does so too; or both refuse the same
operand of `AND` in their own words. -/
def ShortCircuits {α : Type} (no : α) (line : Nat) (s : State) (m m' : Run α) : Prop :=
  m s = m' s ∨ (∃ t, m s = .ok no t ∧ ∀ a t', m' s = .ok a t' → a = no) ∨
    ∃ found t, m s = .error (.fault (.on line (.notALogicalOperand found))) t ∧
      m' s = .error (.fault (.on line (.unsupportedOperator "AND" found))) t

theorem ShortCircuits.map {α β : Type} {no : α} {line : Nat} {s : State} {m m' : Run α}
    (h : ShortCircuits no line s m m') (f : α → β) :
    ShortCircuits (f no) line s (do let a ← m; return f a) (do let a ← m'; return f a) := by
  rcases h with heq | ⟨t, hm, hm'⟩ | ⟨found, t, hm, hm'⟩
  · left
    cases hm : m s with
    | ok a t => rw [Run.bind_of_ok hm, Run.bind_of_ok (heq.symm.trans hm)]
    | error e t => rw [Run.bind_of_error hm, Run.bind_of_error (heq.symm.trans hm)]
  · right
    left
    refine ⟨t, Run.bind_of_ok hm, fun b t' hb => ?_⟩
    obtain ⟨a, u, ha, hb⟩ := Run.bind_eq_ok hb
    cases hb
    rw [hm' a _ ha]
  · exact .inr (.inr ⟨found, t, Run.bind_of_error hm, Run.bind_of_error hm'⟩)

section Operands

variable {program : Program} {settle : Settle} {ctx : Context} {left right : Param}
  {place : Occurrence} {s t : State}

/-- An `AND` whose left operand is known. -/
theorem and_of_left {b : Bool} (h : evaluate program settle ctx left s = .ok (.boolean b) t) :
    evaluate program settle ctx (.condition .and left (some right)) s =
      (if b then (do
        let y ← evaluate program settle ctx right
        let b ← ctx.truth true y
        return .boolean b) else pure (.boolean false) : Run Value) t := by
  simp only [evaluate, evaluateOption]
  rw [Run.bind_of_ok h]
  cases b <;> rfl

theorem and_of_error {e : Stop} (h : evaluate program settle ctx left s = .error e t) :
    evaluate program settle ctx (.condition .and left (some right)) s = .error e t := by
  simp only [evaluate]
  exact Run.bind_of_error h

theorem evaluate_ambiguous :
    evaluate program settle ctx (.ambiguous place left right) = (do
      let x ← evaluate program settle ctx left
      ctx.operate place x (evaluate program settle ctx right)) := by
  simp only [evaluate]
  rfl

theorem ambiguous_of_error {e : Stop} (h : evaluate program settle ctx left s = .error e t) :
    evaluate program settle ctx (.ambiguous place left right) s = .error e t := by
  rw [evaluate_ambiguous]
  exact Run.bind_of_error h

end Operands

section Truth

variable {program : Program} {fuel : Nat} {ctx : Context} {s t : State}
  {left left' right : Param} {place : Occurrence}

/-- The open operator whose left operand is a truth value, if choices are made afresh. -/
theorem ambiguous_of_left (hs : s.choices = .afresh) (hplace : place.operator = .plus) {b : Bool}
    (h : evaluate program (settle program fuel) ctx left s = .ok (.boolean b) t) :
    evaluate program (settle program fuel) ctx (.ambiguous place left right) s = (do
      let y ← evaluate program (settle program fuel) ctx right
      Run.ofExcept ctx.line (Operator.both (.boolean b) y) : Run Value) t := by
  have hchoose : Operator.choose place.operator (.boolean b) = .ok .and := by
    rw [hplace]
    rfl
  rw [evaluate_ambiguous, Run.bind_of_ok h]
  exact operate_of_afresh (evaluate_choices_afresh h hs) hchoose _

/-- Once the left operand is false, so is every answer of the open operator. -/
theorem ambiguous_eq_false (hs : s.choices = .afresh) (hplace : place.operator = .plus)
    (h : evaluate program (settle program fuel) ctx left s = .ok (.boolean false) t)
    {a : Value} {t' : State}
    (ha : evaluate program (settle program fuel) ctx (.ambiguous place left right) s = .ok a t') :
    a = .boolean false := by
  rw [ambiguous_of_left hs hplace h] at ha
  obtain ⟨y, u, -, hy⟩ := Run.bind_eq_ok ha
  cases y <;> cases hy
  rfl

/-- `AND` and the open operator behind the same truth value. -/
theorem ShortCircuits.of_left (hs : s.choices = .afresh) (hplace : place.operator = .plus)
    {b : Bool} (h : evaluate program (settle program fuel) ctx left s = .ok (.boolean b) t)
    (h' : evaluate program (settle program fuel) ctx left' s = .ok (.boolean b) t) :
    ShortCircuits (.boolean false) ctx.line s
      (evaluate program (settle program fuel) ctx (.condition .and left (some right)))
      (evaluate program (settle program fuel) ctx (.ambiguous place left' right)) := by
  cases b with
  | false =>
    right
    left
    exact ⟨t, and_of_left h, fun _ _ ha => ambiguous_eq_false hs hplace h' ha⟩
  | true =>
    unfold ShortCircuits
    rw [and_of_left h, if_pos rfl, ambiguous_of_left hs hplace h']
    cases hr : evaluate program (settle program fuel) ctx right t with
    | error e u =>
      rw [Run.bind_of_error hr, Run.bind_of_error hr]
      exact .inl rfl
    | ok y u =>
      rw [Run.bind_of_ok hr, Run.bind_of_ok hr]
      cases y with
      | boolean b => cases b <;> exact .inl rfl
      | _ => exact .inr (.inr ⟨_, u, rfl, rfl⟩)

/-- **`AND` behind a truth value, and the open operator in its place.** -/
theorem ShortCircuits.and (hs : s.choices = .afresh) (hplace : place.operator = .plus)
    (hkind : (evaluate program (settle program fuel) ctx left).Yields fun v => v.kind = .boolean)
    (h : ShortCircuits (.boolean false) ctx.line s
      (evaluate program (settle program fuel) ctx left)
      (evaluate program (settle program fuel) ctx left')) :
    ShortCircuits (.boolean false) ctx.line s
      (evaluate program (settle program fuel) ctx (.condition .and left (some right)))
      (evaluate program (settle program fuel) ctx (.ambiguous place left' right)) := by
  rcases h with heq | ⟨t, hleft, hleft'⟩ | ⟨found, t, hleft, hleft'⟩
  · cases hl : evaluate program (settle program fuel) ctx left s with
    | error e t =>
      left
      rw [and_of_error hl, ambiguous_of_error (heq.symm.trans hl)]
    | ok x t =>
      obtain ⟨b, rfl⟩ : ∃ b, x = .boolean b := by
        have hx := hkind x ⟨s, t, hl⟩
        cases x <;> cases hx
        exact ⟨_, rfl⟩
      exact .of_left hs hplace hl (heq.symm.trans hl)
  · right
    left
    refine ⟨t, and_of_left hleft, fun a t' ha => ?_⟩
    have hbind := ha
    rw [evaluate_ambiguous] at hbind
    obtain ⟨x, u, hx, -⟩ := Run.bind_eq_ok hbind
    exact ambiguous_eq_false hs hplace (by rw [hx, hleft' x u hx]) ha
  · right
    right
    exact ⟨found, t, and_of_error hleft, ambiguous_of_error hleft'⟩

end Truth

/-! ### Operands joined by `AND` -/

/-- Tokens with nothing left to read, or an `OR`. -/
def Tokens.EndOrOr (ts : Tokens) : Prop := ts = [] ∨ ts.nextIs isOr = true

/-- **Tokens that are operands joined by `AND`**, none of them negated, up to the end or an `OR`. -/
inductive Conjoined (primary : Tokens → Except Fault (Operand × Tokens)) : (ts rest : Tokens) → Prop
  | last {ts rest : Tokens} {o : Operand} (hnot : ts.nextIs isNot = false)
    (h : primary ts = .ok (o, rest)) (hends : rest.EndOrOr) : Conjoined primary ts rest
  | cons {ts ts' rest : Tokens} {t : Token} {o : Operand} (hnot : ts.nextIs isNot = false)
    (h : primary ts = .ok (o, t :: ts')) (ht : isAnd t.kind = true)
    (hrest : Conjoined primary ts' rest) : Conjoined primary ts rest

theorem Tokens.EndOrOr.mono {ts ts' : Tokens} (h : ts.EndOrOr) (hts : Moved ts ts') :
    ts'.EndOrOr := by
  rcases h with rfl | hor
  · cases hts
    exact .inl rfl
  · exact .inr ((hts.nextIs _).trans hor)

theorem Conjoined.ends {primary : Tokens → Except Fault (Operand × Tokens)} {ts rest : Tokens}
    (h : Conjoined primary ts rest) : rest.EndOrOr := by
  induction h with
  | last _ _ hends => exact hends
  | cons _ _ _ _ ih => exact ih

theorem Conjoined.mono {primary primary' : Tokens → Except Fault (Operand × Tokens)}
    {ts rest : Tokens} (h : Conjoined primary ts rest)
    (hp : ∀ {ts ts' rest o}, Moved ts ts' → primary ts = .ok (o, rest) →
      ∃ o' rest', primary' ts' = .ok (o', rest') ∧ Moved rest rest')
    {ts' : Tokens} (hts : Moved ts ts') :
    ∃ rest', Moved rest rest' ∧ Conjoined primary' ts' rest' := by
  induction h generalizing ts' with
  | last hnot h hends =>
    obtain ⟨_, rest', hread, hrest⟩ := hp hts h
    exact ⟨rest', hrest, .last ((hts.nextIs _).trans hnot) hread (hends.mono hrest)⟩
  | cons hnot h ht _ ih =>
    obtain ⟨_, _, hread, hrest⟩ := hp hts h
    cases hrest with
    | cons hkind _ hrest =>
      obtain ⟨rest', hmoved, hc⟩ := ih hrest
      exact ⟨rest', hmoved, .cons ((hts.nextIs _).trans hnot) hread (by rw [hkind]; exact ht) hc⟩

theorem goesOn_of_isAnd {t : TokenKind} (h : isAnd t = true) : goesOn t = false := by
  rcases isAnd_cases h with rfl | rfl <;> rfl

/-- Nothing that binds closer goes on at an `OR`. -/
theorem Tokens.EndOrOr.nextIs {ts : Tokens} (h : ts.EndOrOr) {p : TokenKind → Bool}
    (hsymbol : p (.symbol '|') = false) (hword : p (.word "OR") = false) :
    ts.nextIs p = false := by
  rcases h with rfl | hor
  · rfl
  · cases ts with
    | nil => rfl
    | cons t ts =>
      rcases isOr_cases hor with hkind | hkind <;> simpa only [Tokens.nextIs, hkind]

theorem Tokens.EndOrOr.comparisonSign?_eq_none {ts : Tokens} (h : ts.EndOrOr) (left : Param) :
    Line.comparisonSign? left ts = none := by
  have hnone : ts.nextIs (fun t => (comparator? t).isSome) = false := h.nextIs rfl rfl
  cases ts with
  | nil => rfl
  | cons t ts => simpa [Tokens.nextIs, Line.comparisonSign?] using hnone

section Conjoined

variable {program : Program} {fuel : Nat} {ctx : Context} {s : State} {line : Line}
  {primary : Tokens → Except Fault (Operand × Tokens)} {left left' p : Param}
  {t : Token} {ts rest rest' : Tokens} {budget : Nat}

theorem connective?_eq_none {q : TokenKind → Bool} (h : ts.nextIs q = false) (left : Param) :
    Line.connective? q left ts = none := by
  cases ts with
  | nil => rfl
  | cons t ts => simp_all [Line.connective?, Tokens.eat?, Tokens.nextIs]

/-- One operand further behind an `AND`, in a conjunction and in an expression. -/
theorem chain_and (line : Line) {ts' : Tokens} {o : Operand} (ht : isAnd t.kind = true)
    (hnot : ts.nextIs isNot = false) (hp : primary ts = .ok (o, ts'))
    (hends : ts'.nextIs goesOn = false) :
    chain (Line.connective? isAnd) (fun left _ ts => do
        let (right, ts) ← line.comparisons primary ts
        return (.condition .and left (some right), ts)) (budget + 1) left (t :: ts) =
      chain (Line.connective? isAnd) (fun left _ ts => do
        let (right, ts) ← line.comparisons primary ts
        return (.condition .and left (some right), ts)) budget
        (.condition .and left (some o.param)) ts' ∧
    chain (fold? .value) (line.foldStep primary) (budget + 1) ⟨left', .unknown⟩ (t :: ts) =
      chain (fold? .value) (line.foldStep primary) budget
        ⟨.ambiguous ⟨.plus, line.number, t.start⟩ left' o.param, .unknown⟩ ts' := by
  have hand : Line.connective? isAnd left (t :: ts) = some ((), ts) := by
    simp [Line.connective?, Tokens.eat?, ht]
  have hsign : Sign.ofToken? .value t.kind = some .plus := by
    rcases isAnd_cases ht with h | h <;> rw [h] <;> rfl
  constructor
  · refine chain_of_some hand ?_
    rw [Line.comparisons_of_primary hnot hp hends]
    rfl
  · exact chain_of_some (fold?_of_sign hsign rfl) (foldStep_ambiguous hp)

/-- **A conjunction that starts with one param, and an expression that starts with the other.** Both
go on behind an `AND` with operands that are joined by it. -/
theorem Conjoined.chain (hc : Conjoined primary ts rest) (hs : s.choices = .afresh)
    (ht : isAnd t.kind = true)
    (hkind : (evaluate program (settle program fuel) ctx left).Yields fun v => v.kind = .boolean)
    (h : ShortCircuits (.boolean false) ctx.line s
      (evaluate program (settle program fuel) ctx left)
      (evaluate program (settle program fuel) ctx left'))
    (hread : chain (Line.connective? isAnd) (fun left _ ts => do
      let (right, ts) ← line.comparisons primary ts
      return (.condition .and left (some right), ts)) budget left (t :: ts) = .ok (p, rest'))
    (hrest : rest'.nextIs isAnd = false) :
    rest' = rest ∧ ∃ p',
      StageScript.chain (fold? .value) (line.foldStep primary) budget ⟨left', .unknown⟩ (t :: ts) =
        .ok (⟨p', .unknown⟩, rest) ∧
      ShortCircuits (.boolean false) ctx.line s (evaluate program (settle program fuel) ctx p)
        (evaluate program (settle program fuel) ctx p') := by
  induction hc generalizing left left' t budget with
  | last hnot hp hends =>
    cases budget with
    | zero =>
      cases hread
      cases ht.symm.trans hrest
    | succ budget =>
      obtain ⟨hearly, hlate⟩ := chain_and line ht hnot hp (hends.nextIs rfl rfl)
      rw [hearly, chain_of_none (connective?_eq_none (hends.nextIs rfl rfl) _)] at hread
      cases hread
      exact ⟨rfl, _, hlate.trans (chain_of_none (fold?_eq_none (hends.nextIs rfl rfl)) _),
        h.and hs rfl hkind⟩
  | cons hnot hp ht' hrest' ih =>
    cases budget with
    | zero =>
      cases hread
      cases ht.symm.trans hrest
    | succ budget =>
      have hends : goesOn _ = false := goesOn_of_isAnd ht'
      obtain ⟨hearly, hlate⟩ := chain_and line ht hnot hp hends
      rw [hearly] at hread
      rw [hlate]
      exact ih ht' (condition_kind _ _ _) (h.and hs rfl hkind) hread

/-- A chain of `OR`s behind a param. -/
def Param.orElse (p : Param) (alternatives : List Param) : Param :=
  alternatives.foldl (fun left right => .condition .or left (some right)) p

/-- **What is read behind an `OR`** does not depend on what stands before it. -/
theorem exists_alternatives (h : line.disjunctionFrom primary left ts = .ok (p, rest)) :
    ∃ alternatives, p = left.orElse alternatives ∧ (ts.nextIs isOr = false → alternatives = []) ∧
      ∀ left', line.disjunctionFrom primary left' ts =
        .ok (left'.orElse alternatives, rest) := by
  unfold Line.disjunctionFrom at h ⊢
  generalize ts.length = budget at h ⊢
  induction budget generalizing left ts with
  | zero =>
    cases h
    exact ⟨[], rfl, fun _ => rfl, fun _ => rfl⟩
  | succ budget ih =>
    cases hor : ts.nextIs isOr with
    | false =>
      rw [chain_of_none (connective?_eq_none hor left)] at h
      cases h
      exact ⟨[], rfl, fun _ => rfl,
        fun left' => chain_of_none (connective?_eq_none hor left') _⟩
    | true =>
      cases ts with
      | nil => cases hor
      | cons t ts =>
        have hoperator : ∀ left, Line.connective? isOr left (t :: ts) = some ((), ts) := by
          intro left
          have hkind : isOr t.kind = true := hor
          simp [Line.connective?, Tokens.eat?, hkind]
        obtain ⟨left₁, ts₁, hstep, hrest⟩ := exists_of_chain (hoperator left) h
        obtain ⟨⟨right, ts₂⟩, hright, hstep⟩ := exists_of_bind hstep
        cases hstep
        obtain ⟨alternatives, rfl, -, hall⟩ := ih hrest
        refine ⟨right :: alternatives, rfl, (absurd · Bool.noConfusion), fun left' => ?_⟩
        refine (chain_of_some (hoperator left') ?_).trans (hall (.condition .or left' (some right)))
        rw [hright]
        rfl

/-- No operator but `AND` goes on behind a truth value. -/
theorem fold?_boolean (reading : Reading) (p : Param) (ts : Tokens) :
    fold? reading ⟨p, .boolean⟩ ts = none := by
  cases h : fold? reading ⟨p, .boolean⟩ ts with
  | none => rfl
  | some found =>
    obtain ⟨t, sign, -, -, hfold⟩ := fold?_eq_some h
    cases sign <;> cases hfold

/-- The operators that the two lines may have behind the literal and the variable. -/
def joins (t : TokenKind) : Bool :=
  t.isSymbol '+' || t.isSymbol '-' || t.isSymbol '&' || t.isWordOf ["PLUS", "MINUS", "AND"]

theorem joins_cases {t : TokenKind} (h : joins t = true) :
    isSign .value t = true ∧ comparator? t = none ∧ isOr t = false ∧ t ≠ .symbol ':' := by
  cases t with
  | number x | text s => cases h
  | symbol c =>
    have hc : (c = '+' ∨ c = '-') ∨ c = '&' := by
      simpa [joins, TokenKind.isSymbol, TokenKind.isWordOf] using h
    rcases hc with (rfl | rfl) | rfl <;> exact ⟨rfl, rfl, rfl, by simp⟩
  | word w =>
    have hw : w = "PLUS" ∨ w = "MINUS" ∨ w = "AND" := by
      simpa [joins, TokenKind.isSymbol, TokenKind.isWordOf] using h
    rcases hw with rfl | rfl | rfl <;> exact ⟨rfl, rfl, rfl, by simp⟩

/-- Where a conjunction of a slot that is all of its line stops, an `OR` or a `:` follows, if
anything does. -/
theorem isColon_behind_conjunction {u : Token}
    (h : line.disjunctionFrom primary left (u :: ts) = .ok (p, rest))
    (hrest : rest.dropWhile (·.kind.isSymbol ':') = []) (hu : isOr u.kind = false) :
    u.kind = .symbol ':' := by
  have hnone : Tokens.nextIs isOr (u :: ts) = false := hu
  cases (chain_of_none (connective?_eq_none hnone left) _).symm.trans h
  exact isColon_of_ends hrest

/-- A slot with an expression behind which nothing or an `OR` stands. -/
theorem valueSlot_of_valueExpr {ts' : Tokens} (hstart : ts.nextIs startsCondition = false)
    (hexpr : line.valueExpr primary .value ts = .ok (⟨left, .unknown⟩, ts')) (hends : ts'.EndOrOr)
    (hread : line.disjunctionFrom primary left ts' = .ok (p, rest)) :
    line.valueSlot primary ts = .ok (p, rest) := by
  have hcomparison : Line.comparisonsFrom line primary left ts' = .ok (left, ts') :=
    chain_of_none (hends.comparisonSign?_eq_none left) _
  have hconjunction : Line.conjunctionFrom line primary left ts' = .ok (left, ts') :=
    chain_of_none (connective?_eq_none (hends.nextIs rfl rfl) left) _
  have hcondition : line.conditionFrom primary left ts' = .ok (p, rest) := by
    unfold Line.conditionFrom
    rw [hcomparison]
    show (Line.conjunctionFrom line primary left ts' >>= fun r =>
      Line.disjunctionFrom line primary r.1 r.2) = _
    rw [hconjunction]
    exact hread
  unfold Line.valueSlot
  rw [hstart, if_neg Bool.false_ne_true, hexpr]
  rcases hends with rfl | hor
  · exact hread
  · have hfollows : Line.conditionFollows ts' = true := by
      cases ts' with
      | nil => cases hor
      | cons u ts' =>
        have hu : isOr u.kind = true := hor
        simp [Line.conditionFollows, Tokens.nextIs, hu]
    show (if StaticKind.unknown = .boolean || Line.conditionFollows ts' then
      Line.conditionFrom line primary left ts' else _) = _
    rw [hfollows]
    exact hcondition

/-- **A slot that starts with a truth value, and one that starts with a variable.** They differ in
what stands before the first `OR`. -/
theorem Conjoined.valueSlot {ts' right last : Tokens} (hc : Conjoined primary right last)
    (hs : s.choices = .afresh) (ht : joins t.kind = true)
    (hleft : primary ts = .ok (⟨left, .boolean⟩, t :: right))
    (hleft' : primary ts' = .ok (⟨left', .unknown⟩, t :: right))
    (hkind : (evaluate program (settle program fuel) ctx left).Yields fun v => v.kind = .boolean)
    (h : ShortCircuits (.boolean false) ctx.line s
      (evaluate program (settle program fuel) ctx left)
      (evaluate program (settle program fuel) ctx left'))
    (hnot : ts.nextIs isNot = false) (hstart : ts.nextIs startsCondition = true)
    (hstart' : ts'.nextIs startsCondition = false)
    (hread : line.valueSlot primary ts = .ok (p, rest))
    (hrest : rest.dropWhile (·.kind.isSymbol ':') = []) :
    ∃ first first' alternatives, p = first.orElse alternatives ∧
      line.valueSlot primary ts' = .ok (first'.orElse alternatives, rest) ∧
      (last = [] → alternatives = []) ∧
      ShortCircuits (.boolean false) ctx.line s (evaluate program (settle program fuel) ctx first)
        (evaluate program (settle program fuel) ctx first') := by
  obtain ⟨-, hcomparator, hor, hcolon⟩ := joins_cases ht
  have hcomparisons : line.comparisons primary ts = .ok (left, t :: right) :=
    Line.comparisons_of_ends hnot hleft (fold?_boolean _ _ _)
      (by simp [Line.comparisonSign?, hcomparator])
  unfold Line.valueSlot at hread
  rw [if_pos hstart] at hread
  obtain ⟨⟨first, ts₁⟩, hconjunction, hdisjunction⟩ := exists_of_bind hread
  obtain ⟨⟨_, _⟩, hcomparisons', hconjunction⟩ := exists_of_bind hconjunction
  cases hcomparisons.symm.trans hcomparisons'
  have hand : isAnd t.kind = true := by
    by_contra hne
    have hnone : Tokens.nextIs isAnd (t :: right) = false := by simpa [Tokens.nextIs] using hne
    cases (chain_of_none (connective?_eq_none hnone left) _).symm.trans hconjunction
    exact hcolon (isColon_behind_conjunction hdisjunction hrest hor)
  have hrest₁ : ts₁.nextIs isAnd = false := by
    cases ts₁ with
    | nil => rfl
    | cons u rest' =>
      cases hu : isAnd u.kind with
      | false => exact hu
      | true =>
        rcases isAnd_cases hu with hkind | hkind <;>
          cases hkind.symm.trans
            (isColon_behind_conjunction hdisjunction hrest (by rw [hkind]; rfl))
  obtain ⟨rfl, first', hexpr, hcircuits⟩ := hc.chain hs hand hkind h hconjunction hrest₁
  obtain ⟨alternatives, rfl, hnone, halternatives⟩ := exists_alternatives hdisjunction
  refine ⟨first, first', alternatives, rfl, ?_, fun hnil => hnone (by rw [hnil]; rfl), hcircuits⟩
  refine valueSlot_of_valueExpr hstart' ?_ hc.ends (halternatives first')
  unfold Line.valueExpr
  rw [hleft']
  exact hexpr

end Conjoined

end StageScript
