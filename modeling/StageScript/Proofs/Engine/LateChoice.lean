import StageScript.Proofs.Engine.Change
import StageScript.Proofs.Engine.Column
import StageScript.Proofs.Grammar.Literal
import StageScript.Proofs.Grammar.StaticKind

/-!
# Operators that are chosen early and late

Behind an operand whose kind is known, the grammar says what an operator means; behind one of
unknown kind the meaning stays open, and it is chosen when the left operand has been evaluated. Take
two operands with the same value, one of known and one of unknown kind, and the same tokens behind
both. They are read in step, operator by operator (`Lockstep.step`), up to the end of the slot
(`Lockstep.valueSlot`).

What is chosen late is what was chosen early (`Sign.fold?_late`), so evaluating one slot follows
evaluating the other (`Follows`). One thing only is lost: where the grammar knows the left operand
to be a collection, it takes a single operand on the right for a collection of its own. An operator
that is chosen late refuses it (`follows_bare`).
-/

namespace StageScript

/-! ### Runs that follow each other -/

/-- A run stops because an operator refuses an operand that is no collection. -/
def Refused {α : Type} (result : EStateM.Result Stop State α) : Prop :=
  ∃ f symbol found t, result = .error (.fault f) t ∧
    f.cause = .unsupportedOperator symbol found ∧ found ≠ .collection

/-- **The second run follows the first from a state**: it has the same result. Where the first works
on collections, the second may also refuse an operand that is none. -/
def Follows {α : Type} (kind : ValueKind) (s : State) (m m' : Run α) : Prop :=
  m s = m' s ∨ kind = .collection ∧ Refused (m' s)

namespace Follows

variable {α β : Type} {kind : ValueKind} {s : State}

theorem bind {m m' : Run α} {f f' : α → Run β} (h : Follows kind s m m')
    (hf : ∀ a t, m s = .ok a t → Follows kind t (f a) (f' a)) :
    Follows kind s (m >>= f) (m' >>= f') := by
  rcases h with heq | ⟨hkind, fault, symbol, found, t, hm', hrefused⟩
  · cases hm : m s with
    | ok a t =>
      rw [hm] at heq
      unfold Follows
      rw [Run.bind_of_ok hm, Run.bind_of_ok heq.symm]
      exact hf a t hm
    | error e t =>
      rw [hm] at heq
      exact .inl ((Run.bind_of_error hm).trans (Run.bind_of_error heq.symm).symm)
  · exact .inr ⟨hkind, fault, symbol, found, t, Run.bind_of_error hm', hrefused⟩

theorem bind_same {m m' : Run α} (h : Follows kind s m m') (f : α → Run β) :
    Follows kind s (m >>= f) (m' >>= f) := h.bind fun _ _ _ => .inl rfl

end Follows

/-! ### States without choices -/

theorem Change.choices_afresh {registry : Registry} {s t : State} (h : Change registry s t)
    (hs : s.choices = .afresh) : t.choices = .afresh := by
  cases h with
  | write | bind | set | newScope | note => exact hs
  | assign ha => exact (State.assign_choices ha).trans hs
  | unassign tier =>
    cases tier <;> exact hs
  | choose place choice =>
    show s.choices.add place choice = .afresh
    rw [hs]
    rfl

theorem evaluate_choices_afresh {program : Program} {fuel : Nat} {ctx : Context} {p : Param}
    {s t : State} {v : Value} (h : evaluate program (settle program fuel) ctx p s = .ok v t)
    (hs : s.choices = .afresh) : t.choices = .afresh := by
  have hchanges := evaluate_changes program fuel ctx p s
  rw [Run.after_of_ok h] at hchanges
  clear h
  induction hchanges with
  | refl => exact hs
  | tail _ hstep ih => exact hstep.choices_afresh ih

section Operate

variable {ctx : Context} {place : Occurrence} {choice : Choice} {kind : ValueKind} {s : State}

theorem operate_of_afresh {x : Value} (hs : s.choices = .afresh)
    (hc : Operator.choose place.operator x = .ok choice) (right : Run Value) :
    ctx.operate place x right s =
      (do let y ← right; Run.ofExcept ctx.line (Operator.apply choice x y)) s := by
  have hchoice : ctx.choice place x s = .ok choice s := by
    have h := choice_afresh ctx place x s
    rw [afresh_of_choices hs, hc] at h
    exact h
  exact Run.bind_of_ok hchoice

/-- **An operator that is chosen late does what one chosen early does.** The left operands have the
kind that the early one was chosen for. -/
theorem Follows.operate {left left' right right' : Run Value} (h : Follows kind s left left')
    (hkind : left.Yields fun x => x.kind = kind)
    (hafresh : ∀ x t, left s = .ok x t → t.choices = .afresh)
    (hchoose : ∀ x : Value, x.kind = kind → Operator.choose place.operator x = .ok choice)
    (hright : ∀ (x : Value) t, x.kind = kind →
      Follows kind t (do let y ← right; Run.ofExcept ctx.line (Operator.apply choice x y))
        (do let y ← right'; Run.ofExcept ctx.line (Operator.apply choice x y))) :
    Follows kind s
      (do let x ← left; let y ← right; Run.ofExcept ctx.line (Operator.apply choice x y))
      (do let x ← left'; ctx.operate place x right') := by
  refine h.bind fun x t hx => ?_
  have hk := hkind x ⟨s, t, hx⟩
  unfold Follows
  rw [operate_of_afresh (hafresh x t hx) (hchoose x hk)]
  exact hright x t hk

end Operate

/-! ### A single operand for a collection -/

section Bare

variable {program : Program} {settle : Settle} {ctx : Context} {p : Param} {s t : State}
  {v : Value}

theorem bareObject?_any (p : Param) (s : State) : ctx.bareObject? .any p s = .ok none s := by
  unfold Context.bareObject?
  cases p.variableName? <;> rfl

/-- The value of a single operand that stands for a collection: itself if it is one, or else the
collection of it alone. -/
def Value.alone : Value → Value
  | .collection element items => .collection element items
  | v => .collection .any [v]

theorem evaluate_bare_of_ok (h : evaluate program settle ctx p s = .ok v t) :
    evaluate program settle ctx (bareCollection .any p) s = .ok v.alone t := by
  have hitem : ctx.itemValue program .any v t = .ok v t := by
    cases v <;> rfl
  have hitems : evaluateItems program settle ctx .any [p] s = .ok [v] t := by
    simp only [evaluateItems]
    rw [Run.bind_of_ok (bareObject?_any p s)]
    dsimp only
    rw [Run.bind_of_ok h, Run.bind_of_ok hitem]
    rfl
  unfold bareCollection
  simp only [evaluate]
  rw [if_neg Bool.false_ne_true, Run.bind_of_ok hitems]
  cases v <;> rfl

theorem evaluate_bare_of_error {e : Stop} (h : evaluate program settle ctx p s = .error e t) :
    evaluate program settle ctx (bareCollection .any p) s = .error e t := by
  have hitems : evaluateItems program settle ctx .any [p] s = .error e t := by
    simp only [evaluateItems]
    rw [Run.bind_of_ok (bareObject?_any p s)]
    dsimp only
    rw [Run.bind_of_error h]
  unfold bareCollection
  simp only [evaluate]
  rw [if_neg Bool.false_ne_true, Run.bind_of_error hitems]

/-- A union or difference with a single operand does what one with the operand itself does, or the
latter refuses the operand. -/
theorem follows_bare {choice : Choice} (hchoice : choice = .union ∨ choice = .difference)
    {x : Value} (hx : x.kind = .collection) :
    Follows .collection s
      (do let y ← evaluate program settle ctx (bareCollection .any p)
          Run.ofExcept ctx.line (Operator.apply choice x y))
      (do let y ← evaluate program settle ctx p
          Run.ofExcept ctx.line (Operator.apply choice x y)) := by
  unfold Follows
  cases h : evaluate program settle ctx p s with
  | error e t =>
    rw [Run.bind_of_error (evaluate_bare_of_error h), Run.bind_of_error h]
    exact .inl rfl
  | ok v t =>
    rw [Run.bind_of_ok (evaluate_bare_of_ok h), Run.bind_of_ok h]
    by_cases hv : v.kind = .collection
    · left
      cases v <;> cases hv
      rfl
    · right
      have hrefuse : ∃ symbol,
          Operator.apply choice x v = .error (.unsupportedOperator symbol v.kind) := by
        cases x <;> cases hx
        rcases hchoice with rfl | rfl <;> cases v <;> first | exact ⟨_, rfl⟩ | exact absurd rfl hv
      obtain ⟨symbol, hsymbol⟩ := hrefuse
      rw [hsymbol]
      exact ⟨rfl, _, symbol, v.kind, t, rfl, rfl, hv⟩

end Bare

/-! ### Operands that are read in step -/

/-- The operator that a choice stands for where the kind of the left operand is known. -/
inductive Choice.Means : Choice → Fold → Prop
  | add : Means .add (.math .plus)
  | subtract : Means .subtract (.math .minus)
  | concat : Means .concat .concat
  | union : Means .union (.set true)
  | difference : Means .difference (.set false)

/-- **A sign behind an operand of a known kind and behind one whose kind may be unknown.** It has
the same meaning for both, or it is open for the second, and what is then chosen is the meaning it
has for the first. -/
theorem Sign.fold?_late {sign : Sign} {kind : ValueKind} {late : StaticKind} {column : Nat}
    {fold : Fold} (h : sign.fold? (.ofValueKind kind) column = some fold)
    (hknown : StaticKind.ofValueKind kind ≠ .unknown)
    (hlate : late = .unknown ∨ late = .ofValueKind kind) :
    sign.fold? late column = some fold ∨ ∃ operator choice,
      sign.fold? late column = some (.ambiguous operator column) ∧
      (∀ x : Value, x.kind = kind → Operator.choose operator x = .ok choice) ∧
      choice.leftKind = kind ∧ choice.Means fold := by
  rcases hlate with rfl | rfl
  · cases kind with
    | object | unit => exact absurd rfl hknown
    | boolean => cases sign <;> cases h
    | number =>
      have hchoose : ∀ x : Value, x.kind = .number →
          Operator.choose .plus x = .ok .add ∧ Operator.choose .minus x = .ok .subtract := by
        intro x hx
        cases x <;> cases hx
        exact ⟨rfl, rfl⟩
      cases sign <;> cases h
      · exact .inr ⟨.plus, .add, rfl, fun x hx => (hchoose x hx).1, rfl, .add⟩
      · exact .inr ⟨.minus, .subtract, rfl, fun x hx => (hchoose x hx).2, rfl, .subtract⟩
      · exact .inl rfl
    | text =>
      have hchoose : ∀ x : Value, x.kind = .text → Operator.choose .plus x = .ok .concat := by
        intro x hx
        cases x <;> cases hx
        rfl
      cases sign <;> cases h
      exact .inr ⟨.plus, .concat, rfl, hchoose, rfl, .concat⟩
    | collection =>
      have hchoose : ∀ x : Value, x.kind = .collection →
          Operator.choose .plus x = .ok .union ∧ Operator.choose .minus x = .ok .difference := by
        intro x hx
        cases x <;> cases hx
        exact ⟨rfl, rfl⟩
      cases sign <;> cases h
      · exact .inr ⟨.plus, .union, rfl, fun x hx => (hchoose x hx).1, rfl, .union⟩
      · exact .inr ⟨.minus, .difference, rfl, fun x hx => (hchoose x hx).2, rfl, .difference⟩
      · exact .inl rfl
      · exact .inl rfl
  · exact .inl h

theorem fold?_eq_some {reading : Reading} {left : Operand} {ts ts' : Tokens} {fold : Fold}
    (h : fold? reading left ts = some (fold, ts')) :
    ∃ t sign, ts = t :: ts' ∧ Sign.ofToken? reading t.kind = some sign ∧
      sign.fold? left.kind t.start = some fold := by
  cases ts with
  | nil => cases h
  | cons t ts =>
    obtain ⟨sign, hsign, h⟩ := Option.bind_eq_some_iff.mp h
    obtain ⟨found, hfold, h⟩ := Option.bind_eq_some_iff.mp h
    cases h
    exact ⟨t, sign, rfl, hsign, hfold⟩

theorem fold?_of_sign {reading : Reading} {left : Operand} {t : Token} {ts : Tokens} {sign : Sign}
    {fold : Fold} (hsign : Sign.ofToken? reading t.kind = some sign)
    (hfold : sign.fold? left.kind t.start = some fold) :
    fold? reading left (t :: ts) = some (fold, ts) := by
  simp [fold?, hsign, hfold]

section Lockstep

variable (program : Program) (fuel : Nat) (ctx : Context) (s : State)

/-- **Two operands that are read and evaluated in step**: the kind of the first is known, that of
the second is the same or unknown, and evaluating the second follows evaluating the first. -/
structure Lockstep (kind : ValueKind) (left left' : Operand) : Prop where
  early : left.kind = .ofValueKind kind
  late : left'.kind = .unknown ∨ left'.kind = .ofValueKind kind
  yields : (evaluate program (settle program fuel) ctx left.param).Yields fun v => v.kind = kind
  follows : Follows kind s (evaluate program (settle program fuel) ctx left.param)
    (evaluate program (settle program fuel) ctx left'.param)

/-- The two operands are in step and neither is a variable, as after an operator. -/
structure Joined (kind : ValueKind) (left left' : Operand) : Prop
    extends Lockstep program fuel ctx s kind left left' where
  name? : left.param.variableName? = none
  name?_late : left'.param.variableName? = none

end Lockstep

section Kinds

variable {program : Program} {settle : Settle} {ctx : Context}

theorem yields_math (operator : MathOperator) (left : Param) (right : Option Param) :
    (evaluate program settle ctx (.math operator left right)).Yields fun v => v.kind = .number := by
  simp only [evaluate]
  exact Run.yields_bind fun x => Run.yields_bind fun y =>
    yields_ofExcept fun v h => Operator.math_kind h

theorem yields_concat (left right : Param) :
    (evaluate program settle ctx (.concat left right)).Yields fun v => v.kind = .text := by
  simp only [evaluate]
  exact Run.yields_bind fun x => Run.yields_bind fun y =>
    yields_ofExcept fun v h => Operator.concat_kind h

theorem yields_setOperation (additive : Bool) (left right : Param) :
    (evaluate program settle ctx (setOperation additive left right)).Yields
      fun v => v.kind = .collection := by
  cases additive with
  | true =>
    simp only [setOperation, if_true, evaluate]
    exact Run.yields_bind fun x => Run.yields_bind fun y =>
      yields_ofExcept fun v h => Operator.union_kind h
  | false =>
    simp only [setOperation, Bool.false_eq_true, if_false, evaluate]
    exact Run.yields_bind fun x => Run.yields_bind fun y =>
      yields_ofExcept fun v h => Operator.difference_kind h

end Kinds

theorem setOperand_cases {primary : Tokens → Except Fault (Operand × Tokens)} {ts rest : Tokens}
    {right : Param} (h : Line.setOperand primary ts = .ok (right, rest)) :
    ∃ operand, primary ts = .ok (operand, rest) ∧
      (right = operand.param ∨ right = bareCollection .any operand.param) := by
  obtain ⟨⟨operand, _⟩, hp, hr⟩ := exists_of_bind h
  dsimp only at hr
  split at hr
  · cases hr
    exact ⟨operand, hp, .inl rfl⟩
  · cases hr
    exact ⟨operand, hp, .inr rfl⟩

/-- An open operator with what is read behind it. -/
theorem foldStep_ambiguous {line : Line} {primary : Tokens → Except Fault (Operand × Tokens)}
    {left right : Operand} {operator : AmbiguousOperator} {column : Nat} {ts rest : Tokens}
    (h : primary ts = .ok (right, rest)) :
    line.foldStep primary left (.ambiguous operator column) ts =
      .ok (⟨.ambiguous ⟨operator, line.number, column⟩ left.param right.param, .unknown⟩,
        rest) := by
  simp only [Line.foldStep, h]
  rfl

namespace Lockstep

variable {program : Program} {fuel : Nat} {ctx : Context} {s : State} {kind : ValueKind}
  {left left' : Operand} {line : Line} {primary : Tokens → Except Fault (Operand × Tokens)}
  {ts : Tokens}

theorem kind_eq (h : Lockstep program fuel ctx s kind left left') {kind' : ValueKind}
    (hk : left.kind = .ofValueKind kind') (hknown : StaticKind.ofValueKind kind' ≠ .unknown) :
    kind = kind' := by
  have heq : StaticKind.ofValueKind kind = .ofValueKind kind' := h.early.symm.trans hk
  cases kind <;> cases kind' <;> first | rfl | exact absurd rfl hknown | cases heq

/-- An operator that has one meaning behind both operands. -/
theorem joined_same (h : Lockstep program fuel ctx s kind left left')
    (hknown : StaticKind.ofValueKind kind ≠ .unknown) {reading : Reading} {ts₀ : Tokens}
    {fold : Fold} (hfold : fold? reading left ts₀ = some (fold, ts)) {o : Operand} {rest : Tokens}
    (ho : line.foldStep primary left fold ts = .ok (o, rest)) :
    ∃ o', line.foldStep primary left' fold ts = .ok (o', rest) ∧
      Joined program fuel ctx s kind o o' := by
  rcases Line.fold?_cases hfold (h.early ▸ hknown) with
    ⟨operator, rfl, hk⟩ | ⟨rfl, hk⟩ | ⟨additive, rfl, hk⟩
  · obtain rfl : kind = .number := h.kind_eq hk (by decide)
    have hjoined : ∀ right, Joined program fuel ctx s .number
        ⟨.math operator left.param right, .number⟩ ⟨.math operator left'.param right, .number⟩ :=
      fun right => ⟨⟨rfl, .inr rfl, yields_math _ _ _, h.follows.bind_same _⟩, rfl, rfl⟩
    cases operator with
    | squared =>
      cases ho
      exact ⟨_, rfl, hjoined none⟩
    | _ =>
      obtain ⟨⟨right, _⟩, hp, hr⟩ := exists_of_bind ho
      cases hr
      exact ⟨_, by simp only [Line.foldStep, hp]; rfl, hjoined _⟩
  · obtain rfl : kind = .text := h.kind_eq hk (by decide)
    obtain ⟨⟨right, _⟩, hp, hr⟩ := exists_of_bind ho
    cases hr
    exact ⟨⟨.concat left'.param right.param, .text⟩, by simp only [Line.foldStep, hp]; rfl,
      ⟨rfl, .inr rfl, yields_concat _ _, h.follows.bind_same _⟩, rfl, rfl⟩
  · obtain rfl : kind = .collection := h.kind_eq hk (by decide)
    obtain ⟨⟨right, _⟩, hp, hr⟩ := exists_of_bind ho
    cases hr
    refine ⟨⟨setOperation additive left'.param right, .collection⟩,
      by simp only [Line.foldStep, hp]; rfl,
      ⟨rfl, .inr rfl, yields_setOperation _ _ _, ?_⟩, ?_, ?_⟩
    · cases additive <;> exact h.follows.bind_same _
    · cases additive <;> rfl
    · cases additive <;> rfl

/-- The operation that a choice means, and the open operator in its place. -/
theorem joined_ambiguous {choice : Choice}
    (h : Lockstep program fuel ctx s choice.leftKind left left') (hs : s.choices = .afresh)
    {place : Occurrence}
    (hchoose : ∀ x : Value, x.kind = choice.leftKind →
      Operator.choose place.operator x = .ok choice)
    {early right right' : Param}
    (hearly : evaluate program (settle program fuel) ctx early = (do
      let x ← evaluate program (settle program fuel) ctx left.param
      let y ← evaluate program (settle program fuel) ctx right
      Run.ofExcept ctx.line (Operator.apply choice x y)))
    (hname : early.variableName? = none)
    (hyields : (evaluate program (settle program fuel) ctx early).Yields
      fun v => v.kind = choice.leftKind)
    (hright : ∀ (x : Value) t, x.kind = choice.leftKind → Follows choice.leftKind t
      (do let y ← evaluate program (settle program fuel) ctx right
          Run.ofExcept ctx.line (Operator.apply choice x y))
      (do let y ← evaluate program (settle program fuel) ctx right'
          Run.ofExcept ctx.line (Operator.apply choice x y))) :
    Joined program fuel ctx s choice.leftKind ⟨early, .ofValueKind choice.leftKind⟩
      ⟨.ambiguous place left'.param right', .unknown⟩ := by
  refine ⟨⟨rfl, .inl rfl, hyields, ?_⟩, hname, rfl⟩
  rw [hearly]
  simp only [evaluate]
  exact h.follows.operate h.yields (fun _ _ hx => evaluate_choices_afresh hx hs) hchoose hright

/-- **An operator that is chosen early behind the first operand and late behind the second.** -/
theorem joined_choice (h : Lockstep program fuel ctx s kind left left')
    (hs : s.choices = .afresh) {operator : AmbiguousOperator} {choice : Choice}
    (hchoose : ∀ x : Value, x.kind = kind → Operator.choose operator x = .ok choice) {fold : Fold}
    (hkind : choice.leftKind = kind) (hmeans : choice.Means fold) {o : Operand} {rest : Tokens}
    (ho : line.foldStep primary left fold ts = .ok (o, rest)) (column : Nat) :
    ∃ o', line.foldStep primary left' (.ambiguous operator column) ts = .ok (o', rest) ∧
      Joined program fuel ctx s kind o o' := by
  subst hkind
  cases hmeans with
  | add | subtract =>
    obtain ⟨⟨right, _⟩, hp, hr⟩ := exists_of_bind ho
    cases hr
    exact ⟨_, foldStep_ambiguous hp,
      h.joined_ambiguous hs hchoose rfl rfl (yields_math _ _ _) fun _ _ _ => .inl rfl⟩
  | concat =>
    obtain ⟨⟨right, _⟩, hp, hr⟩ := exists_of_bind ho
    cases hr
    exact ⟨_, foldStep_ambiguous hp,
      h.joined_ambiguous hs hchoose rfl rfl (yields_concat _ _) fun _ _ _ => .inl rfl⟩
  | union =>
    obtain ⟨⟨right, _⟩, hp, hr⟩ := exists_of_bind ho
    cases hr
    obtain ⟨operand, hp, hright⟩ := setOperand_cases hp
    refine ⟨_, foldStep_ambiguous hp,
      h.joined_ambiguous hs hchoose rfl rfl (yields_setOperation true _ _) fun x t hx => ?_⟩
    rcases hright with rfl | rfl
    · exact .inl rfl
    · exact follows_bare (.inl rfl) hx
  | difference =>
    obtain ⟨⟨right, _⟩, hp, hr⟩ := exists_of_bind ho
    cases hr
    obtain ⟨operand, hp, hright⟩ := setOperand_cases hp
    refine ⟨_, foldStep_ambiguous hp,
      h.joined_ambiguous hs hchoose rfl rfl (yields_setOperation false _ _) fun x t hx => ?_⟩
    rcases hright with rfl | rfl
    · exact .inl rfl
    · exact follows_bare (.inr rfl) hx

/-- **One operator further**, both operands are still in step. -/
theorem step (h : Lockstep program fuel ctx s kind left left') (hs : s.choices = .afresh)
    (hknown : StaticKind.ofValueKind kind ≠ .unknown) {reading : Reading} {ts₀ : Tokens}
    {fold : Fold} (hfold : fold? reading left ts₀ = some (fold, ts)) {o : Operand} {rest : Tokens}
    (ho : line.foldStep primary left fold ts = .ok (o, rest)) :
    ∃ fold' o', fold? reading left' ts₀ = some (fold', ts) ∧
      line.foldStep primary left' fold' ts = .ok (o', rest) ∧
      Joined program fuel ctx s kind o o' := by
  obtain ⟨t, sign, rfl, hsign, hmeaning⟩ := fold?_eq_some hfold
  rw [h.early] at hmeaning
  rcases Sign.fold?_late hmeaning hknown h.late with
    hsame | ⟨operator, choice, hopen, hchoose, hkind, hmeans⟩
  · obtain ⟨o', ho', hjoined⟩ := h.joined_same hknown hfold ho
    exact ⟨fold, o', fold?_of_sign hsign hsame, ho', hjoined⟩
  · obtain ⟨o', ho', hjoined⟩ := h.joined_choice hs hchoose hkind hmeans ho t.start
    exact ⟨_, o', fold?_of_sign hsign hopen, ho', hjoined⟩

end Lockstep

/-! ### Expressions that are read in step -/

section Chain

variable {α β : Type} {operator? : α → Tokens → Option (β × Tokens)}
  {step : α → β → Tokens → Except Fault (α × Tokens)} {left left' : α} {operator : β}
  {ts ts' ts'' : Tokens} {budget : Nat}

theorem chain_of_some (h : operator? left ts = some (operator, ts'))
    (hstep : step left operator ts' = .ok (left', ts'')) :
    chain operator? step (budget + 1) left ts = chain operator? step budget left' ts'' := by
  rw [chain, h]
  dsimp only
  rw [hstep]
  rfl

theorem exists_of_chain {r : α × Tokens} (h : operator? left ts = some (operator, ts'))
    (hread : chain operator? step (budget + 1) left ts = .ok r) :
    ∃ left' ts'', step left operator ts' = .ok (left', ts'') ∧
      chain operator? step budget left' ts'' = .ok r := by
  rw [chain, h] at hread
  obtain ⟨⟨left', ts''⟩, hstep, hread⟩ := exists_of_bind hread
  exact ⟨left', ts'', hstep, hread⟩

end Chain

section Expressions

variable {program : Program} {fuel : Nat} {ctx : Context} {s : State} {kind : ValueKind}
  {line : Line} {primary : Tokens → Except Fault (Operand × Tokens)}
  (hs : s.choices = .afresh) (hknown : StaticKind.ofValueKind kind ≠ .unknown)
include hs hknown

/-- Both operands are followed by the same operators, if the first is read up to a token that is
none. -/
theorem Joined.chain {budget : Nat} {left left' o : Operand} {ts rest : Tokens}
    (h : Joined program fuel ctx s kind left left')
    (hread : chain (fold? .value) (line.foldStep primary) budget left ts = .ok (o, rest))
    (hrest : rest.nextIs (isSign .value) = false) :
    ∃ o', chain (fold? .value) (line.foldStep primary) budget left' ts = .ok (o', rest) ∧
      Joined program fuel ctx s kind o o' := by
  induction budget generalizing left left' ts with
  | zero =>
    cases hread
    exact ⟨left', rfl, h⟩
  | succ budget ih =>
    cases hfold : fold? .value left ts with
    | none =>
      rw [chain_of_none hfold] at hread
      cases hread
      exact ⟨left', chain_of_none (fold?_eq_none hrest) _, h⟩
    | some found =>
      obtain ⟨fold, ts'⟩ := found
      obtain ⟨o₁, ts₁, hstep, hread⟩ := exists_of_chain hfold hread
      obtain ⟨fold', o₁', hfold', hstep', hjoined⟩ := h.step hs hknown hfold hstep
      obtain ⟨o', hread', hjoined'⟩ := ih hjoined hread
      exact ⟨o', (chain_of_some hfold' hstep').trans hread', hjoined'⟩

/-- An expression that starts with one operand or the other, with a sign behind it. -/
theorem Lockstep.valueExpr {left left' o : Operand} {ts ts' right rest : Tokens} {t : Token}
    (h : Lockstep program fuel ctx s kind left left')
    (hleft : primary ts = .ok (left, t :: right)) (hleft' : primary ts' = .ok (left', t :: right))
    (ht : isSign .value t.kind = true)
    (hread : line.valueExpr primary .value ts = .ok (o, rest))
    (hrest : rest.nextIs (isSign .value) = false) :
    ∃ o', line.valueExpr primary .value ts' = .ok (o', rest) ∧
      Joined program fuel ctx s kind o o' := by
  obtain ⟨⟨_, _⟩, hp, hread⟩ := exists_of_bind hread
  cases hleft.symm.trans hp
  dsimp only at hread
  cases hfold : fold? .value left (t :: right) with
  | none =>
    -- the expression would end before the sign
    rw [chain_of_none hfold] at hread
    cases hread
    cases ht.symm.trans hrest
  | some found =>
    obtain ⟨fold, ts₁⟩ := found
    obtain ⟨o₁, ts₂, hstep, hread⟩ := exists_of_chain hfold hread
    obtain ⟨fold', o₁', hfold', hstep', hjoined⟩ := h.step hs hknown hfold hstep
    obtain ⟨o', hread', hjoined'⟩ := hjoined.chain hs hknown hread hrest
    refine ⟨o', ?_, hjoined'⟩
    unfold Line.valueExpr
    rw [hleft']
    exact (chain_of_some hfold' hstep').trans hread'

end Expressions

/-! ### Conditions -/

/-- **Two params that are evaluated in step**, neither of which is a variable. -/
structure InStep (program : Program) (fuel : Nat) (ctx : Context) (s : State) (kind : ValueKind)
    (p p' : Param) : Prop where
  follows : Follows kind s (evaluate program (settle program fuel) ctx p)
    (evaluate program (settle program fuel) ctx p')
  name? : p.variableName? = none
  name?_late : p'.variableName? = none

namespace InStep

variable {program : Program} {fuel : Nat} {ctx : Context} {s : State} {kind : ValueKind}
  {left left' : Param}

/-- The left operand of a condition is evaluated first, and only a variable is looked up before. -/
theorem condition (h : InStep program fuel ctx s kind left left') (comparator : Comparator)
    (right : Option Param) :
    InStep program fuel ctx s kind (.condition comparator left right)
      (.condition comparator left' right) := by
  have hcell : ∀ {l : Param} (r : Param), l.variableName? = none →
      ctx.sameCell l r = pure false := by
    intro l r hl
    unfold Context.sameCell
    rw [hl]
  refine ⟨?_, rfl, rfl⟩
  cases comparator with
  | equals =>
    simp only [evaluate, hcell _ h.name?, hcell _ h.name?_late]
    exact h.follows.bind_same _
  | identity | not | and | or | greaterThan | lessThan =>
    simp only [evaluate]
    exact h.follows.bind_same _

/-- A chain of conditions that starts with one param or the other. -/
theorem chain {β : Type} {operator? : Param → Tokens → Option (β × Tokens)}
    (hoperator : ∀ l l' ts, operator? l ts = operator? l' ts) (comparator : β → Comparator)
    {operand : Tokens → Except Fault (Param × Tokens)} {budget : Nat} {p : Param} {ts rest : Tokens}
    (h : InStep program fuel ctx s kind left left')
    (hread : chain operator? (fun left b ts => do
      let (right, ts) ← operand ts
      return (.condition (comparator b) left (some right), ts)) budget left ts = .ok (p, rest)) :
    ∃ p', StageScript.chain operator? (fun left b ts => do
      let (right, ts) ← operand ts
      return (.condition (comparator b) left (some right), ts)) budget left' ts = .ok (p', rest) ∧
      InStep program fuel ctx s kind p p' := by
  induction budget generalizing left left' ts with
  | zero =>
    cases hread
    exact ⟨left', rfl, h⟩
  | succ budget ih =>
    cases hfound : operator? left ts with
    | none =>
      rw [chain_of_none hfound] at hread
      cases hread
      exact ⟨left', chain_of_none ((hoperator _ _ _).trans hfound) _, h⟩
    | some found =>
      obtain ⟨b, ts'⟩ := found
      obtain ⟨left₁, ts₁, hstep, hread⟩ := exists_of_chain hfound hread
      obtain ⟨⟨right, _⟩, hright, hr⟩ := exists_of_bind hstep
      cases hr
      obtain ⟨p', hread', hstep'⟩ := ih (h.condition (comparator b) (some right)) hread
      refine ⟨p', (chain_of_some ((hoperator _ _ _).trans hfound) ?_).trans hread', hstep'⟩
      simp only [hright]
      rfl

section Conditions

variable {line : Line} {primary : Tokens → Except Fault (Operand × Tokens)} {p : Param}
  {ts rest : Tokens} (h : InStep program fuel ctx s kind left left')
include h

theorem comparisonsFrom (hread : line.comparisonsFrom primary left ts = .ok (p, rest)) :
    ∃ p', line.comparisonsFrom primary left' ts = .ok (p', rest) ∧
      InStep program fuel ctx s kind p p' :=
  chain (fun _ _ _ => rfl) id h hread

theorem conjunctionFrom (hread : line.conjunctionFrom primary left ts = .ok (p, rest)) :
    ∃ p', line.conjunctionFrom primary left' ts = .ok (p', rest) ∧
      InStep program fuel ctx s kind p p' :=
  chain (fun _ _ _ => rfl) (fun _ => .and) h hread

theorem disjunctionFrom (hread : line.disjunctionFrom primary left ts = .ok (p, rest)) :
    ∃ p', line.disjunctionFrom primary left' ts = .ok (p', rest) ∧
      InStep program fuel ctx s kind p p' :=
  chain (fun _ _ _ => rfl) (fun _ => .or) h hread

/-- The rest of a condition behind one param or the other. -/
theorem conditionFrom (hread : line.conditionFrom primary left ts = .ok (p, rest)) :
    ∃ p', line.conditionFrom primary left' ts = .ok (p', rest) ∧
      InStep program fuel ctx s kind p p' := by
  obtain ⟨⟨p₁, ts₁⟩, hcomparisons, hread⟩ := exists_of_bind hread
  obtain ⟨⟨p₂, ts₂⟩, hconjunction, hdisjunction⟩ := exists_of_bind hread
  obtain ⟨p₁', hcomparisons', h₁⟩ := h.comparisonsFrom hcomparisons
  obtain ⟨p₂', hconjunction', h₂⟩ := h₁.conjunctionFrom hconjunction
  obtain ⟨p', hdisjunction', h₃⟩ := h₂.disjunctionFrom hdisjunction
  refine ⟨p', ?_, h₃⟩
  unfold Line.conditionFrom
  rw [hcomparisons']
  show (line.conjunctionFrom primary p₁' ts₁ >>= fun read =>
    line.disjunctionFrom primary read.1 read.2) = _
  rw [hconjunction']
  exact hdisjunction'

end Conditions

end InStep

/-! ### Slots -/

theorem isAnd_cases {t : TokenKind} (h : isAnd t = true) : t = .symbol '&' ∨ t = .word "AND" := by
  cases t with
  | number x | text s => cases h
  | symbol c =>
    left
    simpa [isAnd, TokenKind.isSymbol, TokenKind.isWord] using h
  | word w =>
    right
    simpa [isAnd, TokenKind.isSymbol, TokenKind.isWord] using h

theorem isOr_cases {t : TokenKind} (h : isOr t = true) : t = .symbol '|' ∨ t = .word "OR" := by
  cases t with
  | number x | text s => cases h
  | symbol c =>
    left
    simpa [isOr, TokenKind.isSymbol, TokenKind.isWord] using h
  | word w =>
    right
    simpa [isOr, TokenKind.isSymbol, TokenKind.isWord] using h

/-- An expression that goes on as a condition has come to a token that is no sign. -/
theorem isSign_of_conditionFollows {ts : Tokens} (h : Line.conditionFollows ts = true) :
    ts.nextIs (isSign .value) = false := by
  cases ts with
  | nil => cases h
  | cons t ts =>
    obtain ⟨kind, start, stop⟩ := t
    rcases (Bool.or_eq_true _ _).mp h with hcomparator | hor
    · dsimp only at hcomparator
      unfold comparator? at hcomparator
      split at hcomparator <;> first | rfl | cases hcomparator
    · rcases isOr_cases hor with rfl | rfl <;> rfl

/-- A line that ends, but for colons, has nothing else to go on with. -/
theorem isColon_of_ends {t : Token} {rest : Tokens}
    (h : (t :: rest).dropWhile (·.kind.isSymbol ':') = []) : t.kind = .symbol ':' := by
  obtain ⟨kind, start, stop⟩ := t
  have hcolon : kind.isSymbol ':' = true := by
    by_contra hne
    simp [hne] at h
  cases kind with
  | number x | text s | word w => cases hcolon
  | symbol c =>
    have hc : c = ':' := by simpa [TokenKind.isSymbol] using hcolon
    rw [hc]

theorem isSign_of_ends {rest : Tokens} (h : rest.dropWhile (·.kind.isSymbol ':') = []) :
    rest.nextIs (isSign .value) = false := by
  cases rest with
  | nil => rfl
  | cons t rest =>
    show isSign .value t.kind = false
    rw [isColon_of_ends h]
    rfl

theorem reads_valueExpr_ne_boolean {line : Line} {left : Operand} {reading : Reading}
    {primary : Tokens → Except Fault (Operand × Tokens)} {ts ts' : Tokens}
    (hleft : primary ts = .ok (left, ts')) (hk : left.kind ≠ .boolean) :
    Reads (fun o => o.kind ≠ .boolean) (line.valueExpr primary reading ts) := by
  have hstep : ∀ left fold ts, Reads (fun o => o.kind ≠ .boolean)
      (line.foldStep primary left fold ts) := by
    intro left fold ts
    cases fold with
    | math operator =>
      cases operator with
      | squared => exact reads_ok nofun
      | _ => exact reads_bind fun _ _ => reads_ok nofun
    | concat | set | ambiguous => exact reads_bind fun _ _ => reads_ok nofun
  unfold Line.valueExpr
  rw [hleft]
  exact reads_chain (Q := fun o => o.kind ≠ .boolean) (fun left fold _ ts _ _ => hstep left fold ts)
    _ hk _

/-- **A slot that starts with one operand or the other**, with a sign behind it, where the line ends
behind the slot. -/
theorem Lockstep.valueSlot {program : Program} {fuel : Nat} {ctx : Context} {s : State}
    {kind : ValueKind} {line : Line} {primary : Tokens → Except Fault (Operand × Tokens)}
    {left left' : Operand} {ts ts' right rest : Tokens} {t : Token} {p : Param}
    (h : Lockstep program fuel ctx s kind left left') (hs : s.choices = .afresh)
    (hknown : StaticKind.ofValueKind kind ≠ .unknown) (hboolean : kind ≠ .boolean)
    (hleft : primary ts = .ok (left, t :: right)) (hleft' : primary ts' = .ok (left', t :: right))
    (ht : isSign .value t.kind = true) (hstart : ts.nextIs startsCondition = false)
    (hstart' : ts'.nextIs startsCondition = false)
    (hread : line.valueSlot primary ts = .ok (p, rest))
    (hrest : rest.dropWhile (·.kind.isSymbol ':') = []) :
    ∃ p', line.valueSlot primary ts' = .ok (p', rest) ∧
      InStep program fuel ctx s kind p p' := by
  have hne : StaticKind.ofValueKind kind ≠ .boolean := by
    cases kind <;> first | decide | exact absurd rfl hboolean
  unfold Line.valueSlot at hread ⊢
  rw [hstart, if_neg Bool.false_ne_true] at hread
  rw [hstart', if_neg Bool.false_ne_true]
  obtain ⟨⟨o, ts₁⟩, hexpr, hread⟩ := exists_of_bind hread
  have hkind : o.kind ≠ .boolean :=
    reads_valueExpr_ne_boolean hleft (by rw [h.early]; exact hne) o ts₁ hexpr
  have hsign : ts₁.nextIs (isSign .value) = false := by
    dsimp only at hread
    by_cases hfollows : Line.conditionFollows ts₁ = true
    · exact isSign_of_conditionFollows hfollows
    · simp only [hkind, hfollows] at hread
      cases hread
      exact isSign_of_ends hrest
  obtain ⟨o', hexpr', hjoined⟩ := h.valueExpr hs hknown hleft hleft' ht hexpr hsign
  have hkind' : o'.kind ≠ .boolean := by
    rcases hjoined.late with hlate | hlate
    · rw [hlate]
      decide
    · rw [hlate]
      exact hne
  have hstep : InStep program fuel ctx s kind o.param o'.param :=
    ⟨hjoined.follows, hjoined.name?, hjoined.name?_late⟩
  by_cases hfollows : Line.conditionFollows ts₁ = true
  · have hcondition : line.conditionFrom primary o.param ts₁ = .ok (p, rest) := by
      simpa [hfollows] using hread
    obtain ⟨p', hcondition', hin⟩ := hstep.conditionFrom hcondition
    refine ⟨p', ?_, hin⟩
    rw [hexpr']
    simpa [hfollows, bind, Except.bind] using hcondition'
  · simp only [hkind, hfollows] at hread
    cases hread
    refine ⟨o'.param, ?_, hstep⟩
    rw [hexpr']
    simp only [bind, Except.bind, hkind', hfollows]
    rfl

end StageScript
