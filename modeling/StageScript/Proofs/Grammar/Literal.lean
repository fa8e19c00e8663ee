import StageScript.Grammar.Command
import StageScript.Proofs.Engine.Congruence

/-!
# Literals

A number, a text, a truth value or a collection of literals can be written down as it is. `Literal`
relates the tokens of a literal to its value. Whatever stands behind it, a literal is read as an
operand of the kind of its value (`Literal.reads`), which is evaluated to this value in every state
and leaves the state as it was (`Param.Denotes`).
-/

namespace StageScript

mutual

/-- **The tokens of a literal and its value.** The sign of a negative number stands directly before
its digits. -/
inductive Literal : Tokens → Value → Prop
  | number (x : Float) (start stop : Nat) : Literal [⟨.number x, start, stop⟩] (.ofFloat x)
  | negative (x : Float) (start digits stop : Nat) :
    Literal [⟨.symbol '-', start, digits⟩, ⟨.number x, digits, stop⟩] (.ofFloat (-x))
  | text (s : String) (start stop : Nat) : Literal [⟨.text s, start, stop⟩] (.text s)
  | isTrue (start stop : Nat) : Literal [⟨.word "TRUE", start, stop⟩] (.boolean true)
  | isFalse (start stop : Nat) : Literal [⟨.word "FALSE", start, stop⟩] (.boolean false)
  | empty (a b c d : Nat) : Literal [⟨.symbol '[', a, b⟩, ⟨.symbol ']', c, d⟩] (.collection .any [])
  | collection (a b c d : Nat) {items : Tokens} {vs : List Value} (h : LiteralItems items vs) :
    Literal (⟨.symbol '[', a, b⟩ :: (items ++ [⟨.symbol ']', c, d⟩])) (.collection .any vs)

/-- The tokens of the items of a collection and their values. -/
inductive LiteralItems : Tokens → List Value → Prop
  | last {item : Tokens} {v : Value} (h : Literal item v) : LiteralItems item [v]
  | cons {item rest : Tokens} {t : Token} {v : Value} {vs : List Value} (h : Literal item v)
    (ht : (t.kind.isSymbol ',' || t.kind.isSymbol '&' || t.kind.isWord "AND") = true)
    (hrest : LiteralItems rest vs) :
    LiteralItems (item ++ t :: rest) (v :: vs)

end

/-- A param that has a value in every state and leaves the state as it was, without being a
variable. -/
structure Param.Denotes (p : Param) (v : Value) : Prop where
  variableName? : p.variableName? = none
  evaluate : ∀ program settle ctx s, evaluate program settle ctx p s = .ok v s

mutual

/-- What a literal of the value is read as. -/
def Param.ofLiteral : Value → Param
  | .collection _ items => .collection .any false false (Param.ofLiterals items)
  | v => .value v

/-- What the items of a collection are read as. -/
def Param.ofLiterals : List Value → List Param
  | [] => []
  | v :: vs => Param.ofLiteral v :: Param.ofLiterals vs

end

/-! ### Operands that end -/

/-- Whether a token is a sign. -/
def isSign (reading : Reading) (t : TokenKind) : Bool := (Sign.ofToken? reading t).isSome

/-- Whether an operand in a condition goes on with this token, a sign or a comparison. -/
def goesOn (t : TokenKind) : Bool := isSign .logical t || (comparator? t).isSome

theorem chain_of_none {α β : Type} {operator? : α → Tokens → Option (β × Tokens)}
    {step : α → β → Tokens → Except Fault (α × Tokens)} {left : α} {ts : Tokens}
    (h : operator? left ts = none) (budget : Nat) :
    chain operator? step budget left ts = .ok (left, ts) := by
  cases budget with
  | zero => rfl
  | succ budget =>
    unfold chain
    rw [h]

theorem fold?_eq_none {reading : Reading} {left : Operand} {ts : Tokens}
    (h : ts.nextIs (isSign reading) = false) : fold? reading left ts = none := by
  cases ts with
  | nil => rfl
  | cons t ts =>
    have hsign : Sign.ofToken? reading t.kind = none := by
      simpa [Tokens.nextIs, isSign] using h
    simp only [fold?, hsign]
    rfl

namespace Line

variable {line : Line} {primary : Tokens → Except Fault (Operand × Tokens)} {ts rest : Tokens}
  {o : Operand}

/-- An operand with neither an operator nor a comparison behind it is a comparison of its own. -/
theorem comparisons_of_ends (hnot : ts.nextIs isNot = false) (h : primary ts = .ok (o, rest))
    (hfold : fold? .logical o rest = none) (hcomparison : comparisonSign? o.param rest = none) :
    comparisons line primary ts = .ok (o.param, rest) := by
  have hvalue : valueExpr line primary .logical ts = .ok (o, rest) := by
    unfold valueExpr
    rw [h]
    exact chain_of_none hfold _
  have hnegated : negated line primary ts = .ok (o.param, rest) := by
    cases ts with
    | nil =>
      unfold negated
      rw [hvalue]
      rfl
    | cons t ts =>
      have ht : isNot t.kind = false := hnot
      unfold negated
      rw [ht, hvalue]
      rfl
  unfold comparisons
  rw [hnegated]
  exact chain_of_none hcomparison _

theorem comparisons_of_primary (hnot : ts.nextIs isNot = false) (h : primary ts = .ok (o, rest))
    (hrest : rest.nextIs goesOn = false) :
    comparisons line primary ts = .ok (o.param, rest) := by
  cases rest with
  | nil => exact comparisons_of_ends hnot h rfl rfl
  | cons t rest =>
    obtain ⟨hsign, hcomparator⟩ := Bool.or_eq_false_iff.mp hrest
    refine comparisons_of_ends hnot h (fold?_eq_none hsign) ?_
    simpa [comparisonSign?] using hcomparator

end Line

/-! ### Reading and evaluating -/

/-- A literal starts with none of the tokens that say how the rest is to be read. -/
theorem Literal.opens {lit : Tokens} {v : Value} (h : Literal lit v) (rest : Tokens) :
    Tokens.nextIs isNot (lit ++ rest) = false ∧ Line.allOf? (lit ++ rest) = none ∧
      Tokens.eat? (·.isSymbol ']') (lit ++ rest) = none := by
  have hone : ∀ t : Token, (t.kind.isSymbol '*' || t.kind.isWord "ALL") = false →
      ∀ rest, Line.allOf? (t :: rest) = none := by
    intro t ht rest
    cases rest with
    | nil => rfl
    | cons u rest => simp only [Line.allOf?, ht, Bool.false_and, if_neg Bool.false_ne_true]
  cases h <;> exact ⟨rfl, hone _ rfl _, rfl⟩

theorem LiteralItems.opens {items : Tokens} {vs : List Value} (h : LiteralItems items vs)
    (rest : Tokens) : Line.allOf? (items ++ rest) = none ∧
      Tokens.eat? (·.isSymbol ']') (items ++ rest) = none := by
  cases h with
  | last h => exact (h.opens rest).2
  | cons h ht hrest =>
    rw [List.append_assoc]
    exact (h.opens _).2

/-- A list of params that has values in every state, as the items of a collection. -/
def Param.DenoteItems (ps : List Param) (vs : List Value) : Prop :=
  ∀ program settle ctx s, evaluateItems program settle ctx .any ps s = .ok vs s

namespace Param

variable {p : Param} {ps : List Param} {v : Value} {vs : List Value}

theorem denotes_value (v : Value) : Denotes (.value v) v := ⟨rfl, fun _ _ _ _ => rfl⟩

theorem Denotes.item (h : p.Denotes v) (hrest : DenoteItems ps vs) :
    DenoteItems (p :: ps) (v :: vs) := by
  intro program settle ctx s
  have hbare : ctx.bareObject? .any p s = .ok none s := by
    unfold Context.bareObject?
    rw [h.variableName?]
    rfl
  have hitem : ∀ t, ctx.itemValue program .any v t = .ok v t := by
    intro t
    cases v <;> rfl
  simp only [evaluateItems]
  rw [Run.bind_of_ok hbare]
  dsimp only
  rw [Run.bind_of_ok (h.evaluate program settle ctx s), Run.bind_of_ok (hitem s),
    Run.bind_of_ok (hrest program settle ctx s)]
  rfl

theorem DenoteItems.collection (h : DenoteItems ps vs) :
    Denotes (.collection .any false false ps) (.collection .any vs) := by
  refine ⟨rfl, fun program settle ctx s => ?_⟩
  have htyped : Collection.typed .any vs = .ok ⟨.any, vs⟩ := by
    unfold Collection.typed Collection.extend
    have hnone : (vs.find? fun v => !ElementKind.any.accepts v) = none := by
      simp [ElementKind.accepts]
    simp only [hnone, List.nil_append]
  simp only [evaluate]
  rw [if_neg Bool.false_ne_true, Run.bind_of_ok (h program settle ctx s)]
  unfold Context.typed
  rw [htyped]
  rfl

end Param

variable {line : Line}

/-- A separator ends an item of a collection. -/
theorem goesOn_of_separator {t : TokenKind}
    (ht : (t.isSymbol ',' || t.isSymbol '&' || t.isWord "AND") = true) : goesOn t = false := by
  cases t with
  | number x | text s => rfl
  | symbol c =>
    have hc : c = ',' ∨ c = '&' := by
      simpa [TokenKind.isSymbol, TokenKind.isWord] using ht
    rcases hc with rfl | rfl <;> rfl
  | word s =>
    have hs : s = "AND" := by
      simpa [TokenKind.isSymbol, TokenKind.isWord] using ht
    rw [hs]
    rfl

section Separated

variable {α : Type} {unterminated : Cause} {item : Tokens → Except Fault (α × Tokens)} {a : α}
  {as : List α} {t : Token} {ts rest rest' : Tokens}

theorem separated_last (h : item ts = .ok (a, t :: rest)) (ht : t.kind = .symbol ']')
    (budget : Nat) : separated line unterminated item budget ts = .ok ([a], rest) := by
  have hclosing : line.closing unterminated (t :: rest) = .ok rest := by
    simp only [Line.closing, Tokens.eat?, ht]
    rfl
  have hseparator : separator? (t :: rest) = none := by
    simp only [separator?, Tokens.eat?, ht]
    rfl
  cases budget with
  | zero =>
    unfold separated
    rw [h]
    exact congrArg (· >>= fun ts => pure ([a], ts)) hclosing
  | succ budget =>
    unfold separated
    rw [h]
    simp only [bind, Except.bind, hseparator, hclosing]
    rfl

theorem separated_cons (h : item ts = .ok (a, t :: rest))
    (ht : (t.kind.isSymbol ',' || t.kind.isSymbol '&' || t.kind.isWord "AND") = true)
    {budget : Nat} (hrest : separated line unterminated item budget rest = .ok (as, rest')) :
    separated line unterminated item (budget + 1) ts = .ok (a :: as, rest') := by
  have hseparator : separator? (t :: rest) = some rest := if_pos ht
  unfold separated
  rw [h]
  simp only [bind, Except.bind, hseparator, hrest]
  rfl

end Separated

/-- An item of a collection is a literal with a separator or the closing bracket behind it. -/
theorem comparisons_of_literal (line : Line) {lit : Tokens} {v : Value} (h : Literal lit v)
    {primary : Tokens → Except Fault (Operand × Tokens)} {o : Operand} {t : Token} {rest : Tokens}
    (hp : primary (lit ++ t :: rest) = .ok (o, t :: rest)) (ht : goesOn t.kind = false) :
    line.comparisons primary (lit ++ t :: rest) = .ok (o.param, t :: rest) :=
  Line.comparisons_of_primary (h.opens _).1 hp ht

/-- A minus sign and a number directly behind it are a number. -/
theorem Line.primary_negative (line : Line) (n : Nat) (x : Float) (start digits stop : Nat)
    (rest : Tokens) :
    (line.level (n + 1)).primary
        ([⟨.symbol '-', start, digits⟩, ⟨.number x, digits, stop⟩] ++ rest) =
      .ok (⟨.ofFloat (-x), .number⟩, rest) := by
  have hnumber : negativeLiteral? ⟨.symbol '-', start, digits⟩
      (⟨.number x, digits, stop⟩ :: rest) = some (-x, rest) := if_pos rfl
  show line.primaryOver (line.level n) (⟨.symbol '-', start, digits⟩ ::
    ⟨.number x, digits, stop⟩ :: rest) = _
  unfold primaryOver
  simp only [hnumber]

/-- A literal that is no collection is read as its value. -/
theorem Literal.primary_of_ne {lit : Tokens} {v : Value} (h : Literal lit v)
    (hv : v.kind ≠ .collection) (line : Line) (n : Nat) (rest : Tokens) :
    (line.level (n + 1)).primary (lit ++ rest) = .ok (⟨.value v, .ofValueKind v.kind⟩, rest) := by
  cases h with
  | number | text | isTrue | isFalse => rfl
  | negative x start digits stop => exact line.primary_negative n x start digits stop rest
  | empty | collection => exact absurd rfl hv

theorem Line.collectionLiteral_empty (line : Line)
    (primary : Tokens → Except Fault (Operand × Tokens)) (element : ElementKind) (a b : Nat)
    (rest : Tokens) :
    line.collectionLiteral primary element (⟨.symbol ']', a, b⟩ :: rest) =
      .ok (.collection element false false [], rest) := by
  cases rest <;> rfl

/-- A collection of literals is read by reading its items. -/
theorem LiteralItems.collectionLiteral_eq {items : Tokens} {vs : List Value}
    (h : LiteralItems items vs) {primary : Tokens → Except Fault (Operand × Tokens)}
    {close : Token} {rest : Tokens} {ps : List Param}
    (hread : separated line .unterminatedCollection (line.comparisons primary)
      (items ++ close :: rest).length (items ++ close :: rest) = .ok (ps, rest))
    (element : ElementKind) :
    line.collectionLiteral primary element (items ++ close :: rest) =
      .ok (.collection element false false ps, rest) := by
  obtain ⟨hall, hclose⟩ := h.opens (close :: rest)
  unfold Line.collectionLiteral
  simp only [hall, hclose, hread]
  rfl

/-- A collection in brackets is read as an operand. -/
theorem Line.primary_collection {n : Nat} {ts rest : Tokens} {p : Param}
    (hread : line.collectionLiteral (line.level n).primary .any ts = .ok (p, rest)) (a b : Nat) :
    (line.level (n + 1)).primary (⟨.symbol '[', a, b⟩ :: ts) = .ok (⟨p, .collection⟩, rest) := by
  show (line.collectionLiteral (line.level n).primary .any ts >>=
    fun read => pure (Operand.mk read.1 .collection, read.2)) = _
  rw [hread]
  rfl

mutual

/-- **A literal is read as an operand of its kind.** -/
theorem Literal.primary_eq (line : Line) {lit : Tokens} {v : Value} : Literal lit v →
    ∀ (n : Nat) (rest : Tokens), lit.length ≤ n →
      (line.level n).primary (lit ++ rest) =
        .ok (⟨.ofLiteral v, .ofValueKind v.kind⟩, rest)
  | .number x a b, n + 1, rest, _ => (Literal.number x a b).primary_of_ne nofun line n rest
  | .negative x a b c, n + 1, rest, _ => (Literal.negative x a b c).primary_of_ne nofun line n rest
  | .text s a b, n + 1, rest, _ => (Literal.text s a b).primary_of_ne nofun line n rest
  | .isTrue a b, n + 1, rest, _ => (Literal.isTrue a b).primary_of_ne nofun line n rest
  | .isFalse a b, n + 1, rest, _ => (Literal.isFalse a b).primary_of_ne nofun line n rest
  | .empty a b c d, n + 1, rest, _ =>
    Line.primary_collection (line.collectionLiteral_empty _ .any c d rest) a b
  | @Literal.collection a b c d items vs h, n + 1, rest, hn => by
    simp only [List.length_cons, List.length_append] at hn
    have hbudget : items.length ≤ (items ++ ⟨.symbol ']', c, d⟩ :: rest).length := by
      rw [List.length_append]
      omega
    have hitems := h.separated_eq line n ⟨.symbol ']', c, d⟩ rest _ rfl (by omega) hbudget
    rw [List.cons_append, List.append_assoc]
    exact Line.primary_collection (h.collectionLiteral_eq hitems .any) a b

theorem LiteralItems.separated_eq (line : Line) {items : Tokens} {vs : List Value} :
    LiteralItems items vs →
    ∀ (n : Nat) (close : Token) (rest : Tokens) (budget : Nat), close.kind = .symbol ']' →
      items.length ≤ n → items.length ≤ budget →
        separated line .unterminatedCollection (line.comparisons (line.level n).primary) budget
          (items ++ close :: rest) = .ok (Param.ofLiterals vs, rest)
  | .last h, n, close, rest, budget, hclose, hn, hb =>
    separated_last (comparisons_of_literal line h (h.primary_eq line n (close :: rest) hn)
      (by rw [hclose]; rfl)) hclose budget
  | @LiteralItems.cons item others t v vs h ht hrest, n, close, rest, budget, hclose, hn, hb => by
    simp only [List.length_append, List.length_cons] at hn hb
    obtain ⟨budget, rfl⟩ : ∃ k, budget = k + 1 := ⟨budget - 1, by omega⟩
    have hprimary := h.primary_eq line n (t :: (others ++ close :: rest)) (by omega)
    have hitem := comparisons_of_literal line h hprimary (goesOn_of_separator ht)
    have hothers := hrest.separated_eq line n close rest budget hclose (by omega) (by omega)
    rw [List.append_assoc]
    exact separated_cons hitem ht hothers

end

mutual

/-- **What a literal is read as has its value.** -/
theorem Literal.denotes {lit : Tokens} {v : Value} : Literal lit v → (Param.ofLiteral v).Denotes v
  | .number _ _ _ | .negative _ _ _ _ | .text _ _ _ | .isTrue _ _ | .isFalse _ _ =>
    Param.denotes_value _
  | .empty _ _ _ _ => Param.DenoteItems.collection fun _ _ _ _ => rfl
  | .collection _ _ _ _ h => h.denote.collection

theorem LiteralItems.denote {items : Tokens} {vs : List Value} :
    LiteralItems items vs → Param.DenoteItems (Param.ofLiterals vs) vs
  | .last h => h.denotes.item fun _ _ _ _ => rfl
  | .cons h _ hrest => h.denotes.item hrest.denote

end

/-- **A literal is read as an operand of its kind, which has its value.** -/
theorem Literal.reads (line : Line) {lit : Tokens} {v : Value} (h : Literal lit v) (n : Nat)
    (rest : Tokens) (hn : lit.length ≤ n) :
    ∃ p, (line.level n).primary (lit ++ rest) = .ok (⟨p, .ofValueKind v.kind⟩, rest) ∧
      p.Denotes v :=
  ⟨_, h.primary_eq line n rest hn, h.denotes⟩

end StageScript
