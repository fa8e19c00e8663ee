import StageScript.Proofs.Engine.Parentheses

/-!
# Conditions as they are written

A condition is a chain of conjunctions, a conjunction a chain of comparisons, a comparison a chain
of operands, and an operand has any number of negations in front. Every link of a chain may be
spelled as a symbol or as a word. A slot for a condition that ends with a colon reads just these
tokens, and reads each chain as joined from the left (`conditionSlot_of_kinds`). So comparisons bind
tighter than `&`, and `&` tighter than `|`, however long the chains are.

What is shown of one chain (`Chained.readsAs`) is used three times, for an item of any kind: an item
ends where none of the operators of its own stands, and the operators of a chain are not among those
of its items.
-/

namespace StageScript

/-! ### Operands -/

/-- An operand of a condition: a variable or a literal. -/
inductive Atom where
  | variable (name : String)
  | number (x : Float)
  | text (s : String)
  | truth (b : Bool)

/-- How an operator is spelled: as a symbol or as a word. -/
inductive Spelling where
  | symbol
  | word

/-- How a negation is spelled: `!`, `NOT`, or the `NOT-` that is cut off a word. -/
inductive Negation where
  | symbol
  | word
  | dashed

/-- An operand with its negations. -/
structure Term where
  negations : List Negation := []
  atom : Atom

namespace Atom

/-- The token of the operand. -/
def kind : Atom → TokenKind
  | .variable name => .word name
  | .number x => .number x
  | .text s => .text s
  | .truth b => .word (if b then "TRUE" else "FALSE")

/-- What the operand is read as. -/
def param : Atom → Param
  | .variable name => .variable name
  | .number x => .ofFloat x
  | .text s => .ofText s
  | .truth b => .value (.boolean b)

/-- A variable has the name of a variable, and is not the word that negates what follows. -/
def IsNamed (registry : Registry) : Atom → Prop
  | .variable name => registry.IsFree name ∧ name ≠ "NOT-"
  | _ => True

end Atom

/-- The token of the negation. -/
def Negation.kind : Negation → TokenKind
  | .symbol => .symbol '!'
  | .word => .word "NOT"
  | .dashed => .word "NOT-"

namespace Term

/-- The tokens of the operand and of its negations. -/
def kinds (t : Term) : List TokenKind := t.negations.map (·.kind) ++ [t.atom.kind]

/-- Every negation is a condition about what stands behind it. -/
def param (t : Term) : Param :=
  t.negations.foldr (fun _ p => .condition .not p none) t.atom.param

end Term

/-! ### Chains -/

/-- One item or more, each but the first behind an operator. -/
structure Chained (σ α : Type) where
  first : α
  others : List (σ × α) := []

namespace Chained

variable {σ α : Type}

/-- The tokens of the items and of the operators between them. -/
def kinds (sign : σ → TokenKind) (item : α → List TokenKind) (c : Chained σ α) : List TokenKind :=
  item c.first ++ c.others.flatMap fun o => sign o.1 :: item o.2

/-- The items joined from the left. -/
def param (comparator : σ → Comparator) (item : α → Param) (c : Chained σ α) : Param :=
  c.others.foldl (fun left o => .condition (comparator o.1) left (some (item o.2))) (item c.first)

/-- Every item has a property. -/
def All (P : α → Prop) (c : Chained σ α) : Prop := P c.first ∧ ∀ o ∈ c.others, P o.2

end Chained

/-- The operators between the operands of a comparison. -/
inductive ComparisonSign where
  | equals (spelling : Spelling)
  | greaterThan (spelling : Spelling)
  | lessThan (spelling : Spelling)

namespace ComparisonSign

/-- The token of the operator. -/
def kind : ComparisonSign → TokenKind
  | .equals .symbol => .symbol '='
  | .equals .word => .word "EQUALS"
  | .greaterThan .symbol => .symbol '>'
  | .greaterThan .word => .word "GREATER-THAN"
  | .lessThan .symbol => .symbol '<'
  | .lessThan .word => .word "LESS-THAN"

/-- How the operands are compared. -/
def comparator : ComparisonSign → Comparator
  | .equals _ => .equals
  | .greaterThan _ => .greaterThan
  | .lessThan _ => .lessThan

end ComparisonSign

/-- The token that joins comparisons. -/
def Spelling.and : Spelling → TokenKind
  | .symbol => .symbol '&'
  | .word => .word "AND"

/-- The token that joins conjunctions. -/
def Spelling.or : Spelling → TokenKind
  | .symbol => .symbol '|'
  | .word => .word "OR"

/-- Operands that are compared. -/
abbrev Comparisons := Chained ComparisonSign Term

/-- Comparisons joined by `AND`. -/
abbrev Conjunction := Chained Spelling Comparisons

/-- Conjunctions joined by `OR`. -/
abbrev Disjunction := Chained Spelling Conjunction

/-- The tokens of comparisons. -/
def Comparisons.kinds (c : Comparisons) : List TokenKind :=
  Chained.kinds ComparisonSign.kind Term.kinds c

/-- What comparisons are read as. -/
def Comparisons.param (c : Comparisons) : Param :=
  Chained.param ComparisonSign.comparator Term.param c

/-- The tokens of a conjunction. -/
def Conjunction.kinds (c : Conjunction) : List TokenKind :=
  Chained.kinds Spelling.and Comparisons.kinds c

/-- What a conjunction is read as. -/
def Conjunction.param (c : Conjunction) : Param :=
  Chained.param (fun _ => .and) Comparisons.param c

namespace Disjunction

/-- The tokens of a condition. -/
def kinds (c : Disjunction) : List TokenKind := Chained.kinds Spelling.or Conjunction.kinds c

/-- What a condition is read as. -/
def param (c : Disjunction) : Param := Chained.param (fun _ => .or) Conjunction.param c

/-- All variables have the names of variables. -/
def IsNamed (registry : Registry) (c : Disjunction) : Prop :=
  c.All fun conjunction => conjunction.All fun comparisons => comparisons.All fun term =>
    term.atom.IsNamed registry

/-- The condition is a single operand without a negation. -/
def isBare (c : Disjunction) : Bool :=
  c.others.isEmpty && c.first.others.isEmpty && c.first.first.others.isEmpty &&
    c.first.first.first.negations.isEmpty

end Disjunction

/-! ### Reading a chain -/

/-- **Tokens of these kinds are read as a param**, in front of any that do not go on. -/
def ReadsAs (parse : Tokens → Except Fault (Param × Tokens)) (goesOn : TokenKind → Bool)
    (kinds : List TokenKind) (p : Param) : Prop :=
  ∀ ts rest : Tokens, ts.map (·.kind) = kinds → rest.nextIs goesOn = false →
    parse (ts ++ rest) = .ok (p, rest)

/-- **Operators that join items**: each is found where its token stands, none is found where the
chain does not go on, and an item ends before an operator as well as behind the chain. -/
structure Joining {σ β : Type} (operator? : Param → Tokens → Option (β × Tokens))
    (sign : σ → TokenKind) (meaning : σ → β) (inner outer : TokenKind → Bool) : Prop where
  found : ∀ (s : σ) (left : Param) (t : Token) (ts : Tokens), t.kind = sign s →
    operator? left (t :: ts) = some (meaning s, ts)
  none_found : ∀ (left : Param) (ts : Tokens), ts.nextIs outer = false → operator? left ts = none
  ends : ∀ s : σ, inner (sign s) = false
  inner_of_outer : ∀ ts : Tokens, ts.nextIs outer = false → ts.nextIs inner = false

/-- The parser of a chain: an item, and others as long as operators follow. -/
def chainOf {β : Type} (operator? : Param → Tokens → Option (β × Tokens))
    (comparator : β → Comparator) (item : Tokens → Except Fault (Param × Tokens)) (ts : Tokens) :
    Except Fault (Param × Tokens) := do
  let (left, ts) ← item ts
  chain operator? (fun left b ts => do
    let (right, ts) ← item ts
    return (.condition (comparator b) left (some right), ts)) ts.length left ts

section Chain

variable {σ α β : Type} {operator? : Param → Tokens → Option (β × Tokens)} {sign : σ → TokenKind}
  {meaning : σ → β} {comparator : β → Comparator} {inner outer : TokenKind → Bool}
  {item : Tokens → Except Fault (Param × Tokens)} {kindsOf : α → List TokenKind}
  {paramOf : α → Param}

/-- What is left of a chain starts with an operator, or it is the end. -/
theorem Joining.nextIs_inner (h : Joining operator? sign meaning inner outer)
    {others : List (σ × α)} {ts rest : Tokens}
    (hts : ts.map (·.kind) = others.flatMap fun o => sign o.1 :: kindsOf o.2)
    (hrest : rest.nextIs outer = false) : (ts ++ rest).nextIs inner = false := by
  cases others with
  | nil =>
    have hnil : ts = [] := by simpa using hts
    rw [hnil]
    exact h.inner_of_outer rest hrest
  | cons o others =>
    obtain ⟨t, ts, rfl, ht, -⟩ := List.map_eq_cons_iff.mp hts
    show inner t.kind = false
    rw [ht]
    exact h.ends o.1

/-- The items behind the first, by induction on them; what was read so far is on the left. -/
theorem Joining.chain_others (h : Joining operator? sign meaning inner outer)
    {others : List (σ × α)}
    (hitem : ∀ o ∈ others, ReadsAs item inner (kindsOf o.2) (paramOf o.2)) {ts rest : Tokens}
    (hts : ts.map (·.kind) = others.flatMap fun o => sign o.1 :: kindsOf o.2)
    (hrest : rest.nextIs outer = false) {budget : Nat} (hbudget : ts.length ≤ budget)
    (left : Param) :
    chain operator? (fun left b ts => do
        let (right, ts) ← item ts
        return (.condition (comparator b) left (some right), ts)) budget left (ts ++ rest) =
      .ok (others.foldl (fun left o =>
        .condition (comparator (meaning o.1)) left (some (paramOf o.2))) left, rest) := by
  induction others generalizing ts budget left with
  | nil =>
    have hnil : ts = [] := by simpa using hts
    subst hnil
    exact chain_of_none (h.none_found left rest hrest) budget
  | cons o others ih =>
    obtain ⟨t, ts, rfl, ht, hts⟩ := List.map_eq_cons_iff.mp hts
    obtain ⟨first, more, rfl, hfirst, hmore⟩ := List.map_eq_append_iff.mp hts
    obtain ⟨budget, rfl⟩ : ∃ k, budget = k + 1 := ⟨budget - 1, by simp at hbudget; omega⟩
    have hread : item (first ++ (more ++ rest)) = .ok (paramOf o.2, more ++ rest) :=
      hitem o List.mem_cons_self first _ hfirst (h.nextIs_inner hmore hrest)
    have hlength : more.length ≤ budget := by
      simp only [List.length_cons, List.length_append] at hbudget
      omega
    rw [List.cons_append, List.append_assoc]
    refine (chain_of_some (h.found o.1 left t _ ht) ?_).trans
      (ih (fun o ho => hitem o (List.mem_cons_of_mem _ ho)) hmore hlength _)
    rw [hread]
    rfl

/-- **A chain is read as its items joined from the left.** -/
theorem Chained.readsAs (comparator : β → Comparator)
    (h : Joining operator? sign meaning inner outer) (c : Chained σ α)
    (hitem : c.All fun a => ReadsAs item inner (kindsOf a) (paramOf a)) :
    ReadsAs (chainOf operator? comparator item) outer (c.kinds sign kindsOf)
      (c.param (fun s => comparator (meaning s)) paramOf) := by
  intro ts rest hts hrest
  obtain ⟨first, more, rfl, hfirst, hmore⟩ := List.map_eq_append_iff.mp hts
  have hread : item (first ++ (more ++ rest)) = .ok (paramOf c.first, more ++ rest) :=
    hitem.1 first _ hfirst (h.nextIs_inner hmore hrest)
  have hlength : more.length ≤ (more ++ rest).length := by
    rw [List.length_append]
    omega
  rw [List.append_assoc]
  unfold chainOf
  rw [hread]
  exact h.chain_others hitem.2 hmore hrest hlength _

end Chain

/-! ### Reading a condition -/

/-- Whether comparisons, or the conjunction they stand in, go on with this token. -/
def conjunctionGoesOn (t : TokenKind) : Bool := goesOn t || isAnd t

/-- Whether a condition goes on with this token. -/
def conditionGoesOn (t : TokenKind) : Bool := conjunctionGoesOn t || isOr t

theorem Tokens.nextIs_eq_false_of {p q : TokenKind → Bool} (h : ∀ t, p t = true → q t = true)
    {ts : Tokens} (hts : ts.nextIs q = false) : ts.nextIs p = false := by
  cases ts with
  | nil => rfl
  | cons t ts =>
    have hq : q t.kind = false := hts
    show p t.kind = false
    by_contra hp
    rw [h t.kind ((Bool.not_eq_false _).mp hp)] at hq
    cases hq

theorem joining_comparisonSign :
    Joining Line.comparisonSign? ComparisonSign.kind ComparisonSign.comparator (isSign .logical)
      goesOn where
  found s left t ts ht := by
    show (comparator? t.kind).map (·, ts) = some (s.comparator, ts)
    rw [ht]
    rcases s with s | s | s <;> cases s <;> rfl
  none_found left ts hts := by
    cases ts with
    | nil => rfl
    | cons t ts =>
      have hcomparator := (Bool.or_eq_false_iff.mp hts).2
      simpa [Line.comparisonSign?] using hcomparator
  ends s := by rcases s with s | s | s <;> cases s <;> rfl
  inner_of_outer _ := Tokens.nextIs_eq_false_of fun t ht => by simp [goesOn, ht]

theorem joining_connective {p inner outer : TokenKind → Bool} {sign : Spelling → TokenKind}
    (hsign : ∀ s, p (sign s) = true ∧ inner (sign s) = false)
    (houter : ∀ t, outer t = (inner t || p t)) :
    Joining (Line.connective? p) sign (fun _ => ()) inner outer where
  found s left t ts ht := by
    have hp : p t.kind = true := by rw [ht, (hsign s).1]
    simp [Line.connective?, Tokens.eat?, hp]
  none_found left ts hts := by
    cases ts with
    | nil => rfl
    | cons t ts =>
      have houter' : outer t.kind = false := hts
      rw [houter, Bool.or_eq_false_iff] at houter'
      simp [Line.connective?, Tokens.eat?, houter'.2]
  ends s := (hsign s).2
  inner_of_outer _ := Tokens.nextIs_eq_false_of fun t ht => by rw [houter, ht]; rfl

section Reading

variable (line : Line) (n : Nat)

/-- **An operand is read from its one token.** -/
theorem Atom.primary_eq {a : Atom} (ha : a.IsNamed line.registry) {t : Token} (ht : t.kind = a.kind)
    (rest : Tokens) :
    ∃ kind, (line.level (n + 1)).primary (t :: rest) = .ok (⟨a.param, kind⟩, rest) := by
  obtain ⟨kind, start, stop⟩ := t
  subst ht
  cases a with
  | «variable» name => exact ⟨_, primary_variable line ha.1 n start stop rest⟩
  | number x => exact ⟨_, rfl⟩
  | text s => exact ⟨_, rfl⟩
  | truth b => cases b <;> exact ⟨_, rfl⟩

theorem Atom.isNot_kind {a : Atom} {registry : Registry} (ha : a.IsNamed registry) :
    isNot a.kind = false := by
  cases a with
  | «variable» name =>
    have hstart := startsCondition_of_isFree ha.1 ha.2
    exact (Bool.or_eq_false_iff.mp (Bool.or_eq_false_iff.mp hstart).1).1
  | number x => rfl
  | text s => rfl
  | truth b => cases b <;> rfl

/-- By induction on the negations. -/
theorem Term.readsAs {term : Term} (h : term.atom.IsNamed line.registry) :
    ReadsAs (line.negated (line.level (n + 1)).primary) (isSign .logical) term.kinds
      term.param := by
  obtain ⟨negations, a⟩ := term
  intro ts rest hts hrest
  induction negations generalizing ts with
  | nil =>
    obtain ⟨t, ts, rfl, ht, hts⟩ := List.map_eq_cons_iff.mp hts
    have hnil : ts = [] := List.map_eq_nil_iff.mp hts
    subst hnil
    have hnot : isNot t.kind = false := by rw [ht]; exact Atom.isNot_kind h
    obtain ⟨kind, hprimary⟩ := Atom.primary_eq line n h ht rest
    have hvalue : line.valueExpr (line.level (n + 1)).primary .logical (t :: rest) =
        .ok (⟨a.param, kind⟩, rest) := by
      unfold Line.valueExpr
      rw [hprimary]
      exact chain_of_none (fold?_eq_none hrest) _
    show line.negated (line.level (n + 1)).primary (t :: rest) = _
    unfold Line.negated
    rw [hnot, hvalue]
    rfl
  | cons negation negations ih =>
    obtain ⟨t, ts, rfl, ht, hts⟩ := List.map_eq_cons_iff.mp hts
    have hnot : isNot t.kind = true := by
      rw [ht]
      cases negation <;> rfl
    have hinner := ih h ts hts
    rw [List.cons_append]
    unfold Line.negated
    rw [if_pos hnot, hinner]
    rfl

theorem Comparisons.readsAs {c : Comparisons}
    (h : c.All fun term => term.atom.IsNamed line.registry) :
    ReadsAs (line.comparisons (line.level (n + 1)).primary) goesOn c.kinds c.param :=
  Chained.readsAs (fun b => b) joining_comparisonSign c
    ⟨Term.readsAs line n h.1, fun o ho => Term.readsAs line n (h.2 o ho)⟩

theorem Conjunction.readsAs {c : Conjunction}
    (h : c.All fun comparisons => comparisons.All fun term => term.atom.IsNamed line.registry) :
    ReadsAs (line.conjunction (line.level (n + 1)).primary) conjunctionGoesOn c.kinds c.param := by
  have hjoining :
      Joining (Line.connective? isAnd) Spelling.and (fun _ => ()) goesOn conjunctionGoesOn :=
    joining_connective (fun s => by cases s <;> exact ⟨rfl, rfl⟩) fun _ => rfl
  exact Chained.readsAs (fun _ => .and) hjoining c
    ⟨Comparisons.readsAs line n h.1, fun o ho => Comparisons.readsAs line n (h.2 o ho)⟩

theorem Disjunction.readsAs {c : Disjunction} (h : c.IsNamed line.registry) :
    ReadsAs (line.disjunction (line.level (n + 1)).primary) conditionGoesOn c.kinds c.param := by
  have hjoining :
      Joining (Line.connective? isOr) Spelling.or (fun _ => ()) conjunctionGoesOn conditionGoesOn :=
    joining_connective (fun s => by cases s <;> exact ⟨rfl, rfl⟩) fun _ => rfl
  exact Chained.readsAs (fun _ => .or) hjoining c
    ⟨Conjunction.readsAs line n h.1, fun o ho => Conjunction.readsAs line n (h.2 o ho)⟩

end Reading

/-! ### A slot for a condition -/

theorem Chained.isCondition_param {σ α : Type} {comparator : σ → Comparator} {item : α → Param}
    (c : Chained σ α) :
    (c.param comparator item).isCondition = (!c.others.isEmpty || (item c.first).isCondition) := by
  obtain ⟨first, others⟩ := c
  obtain rfl | ⟨others, last, rfl⟩ := List.eq_nil_or_concat others
  · rfl
  · simp [Chained.param, Param.isCondition]

theorem Atom.isCondition_param (a : Atom) : a.param.isCondition = false := by
  cases a <;> rfl

theorem Term.isCondition_param (t : Term) : t.param.isCondition = !t.negations.isEmpty := by
  obtain ⟨negations, a⟩ := t
  cases negations with
  | nil => exact a.isCondition_param
  | cons => rfl

/-- Any condition but a bare operand is read as one. -/
theorem Disjunction.isCondition_param (c : Disjunction) : c.param.isCondition = !c.isBare := by
  unfold Disjunction.param
  rw [Chained.isCondition_param]
  unfold Conjunction.param
  rw [Chained.isCondition_param]
  unfold Comparisons.param
  rw [Chained.isCondition_param, Term.isCondition_param]
  simp [Disjunction.isBare, Bool.or_assoc]

/-- **Comparisons bind tighter than `AND`, and `AND` tighter than `OR`.** A slot for a condition
takes the tokens of a condition up to the colon, and reads the conjunctions joined from the left by
`OR`, in each of them the comparisons joined by `AND`, and in each of these the operands with their
negations. A bare operand is tested for its own truth. -/
theorem conditionSlot_of_kinds (line : Line) (n : Nat) {c : Disjunction}
    (hc : c.IsNamed line.registry) {ts : Tokens} (hts : ts.map (·.kind) = c.kinds) {colon : Token}
    (hcolon : colon.kind = .symbol ':') (rest : Tokens) :
    line.conditionSlot (line.level (n + 1)).primary (ts ++ colon :: rest) =
      .ok (if c.isBare then .condition .identity c.param none else c.param, colon :: rest) := by
  have hends : Tokens.nextIs conditionGoesOn (colon :: rest) = false := by
    show conditionGoesOn colon.kind = false
    rw [hcolon]
    rfl
  have hread := Disjunction.readsAs line n hc ts (colon :: rest) hts hends
  refine Line.conditionSlot_eq_ok.mpr ⟨c.param, hread, ?_⟩
  rw [c.isCondition_param]
  cases c.isBare <;> rfl

/-- The condition `A = 1 | B GREATER-THAN "X" & NOT C`. -/
def mixedCondition : Disjunction where
  first := ⟨⟨⟨[], .variable "A"⟩, [(.equals .symbol, ⟨[], .number 1⟩)]⟩, []⟩
  others := [(.symbol, ⟨⟨⟨[], .variable "B"⟩, [(.greaterThan .word, ⟨[], .text "X"⟩)]⟩,
    [(.symbol, ⟨⟨[.word], .variable "C"⟩, []⟩)]⟩)]

/-- A line that does `END` on this condition. -/
def mixedLine : Line := plainLine "IF: A = 1 | B GREATER-THAN \"X\" & NOT C : END"

/-- The tokens of the condition in the line. -/
def mixedTokens : Tokens :=
  [⟨.word "A", 4, 5⟩, ⟨.symbol '=', 6, 7⟩, ⟨.number 1, 8, 9⟩, ⟨.symbol '|', 10, 11⟩,
    ⟨.word "B", 12, 13⟩, ⟨.word "GREATER-THAN", 14, 26⟩, ⟨.text "X", 27, 30⟩,
    ⟨.symbol '&', 31, 32⟩, ⟨.word "NOT", 33, 36⟩, ⟨.word "C", 37, 38⟩]

theorem conditionSlot_mixedCondition :
    mixedLine.conditionSlot (mixedLine.level 1).primary
        (mixedTokens ++ [⟨.symbol ':', 39, 40⟩, ⟨.word "END", 41, 44⟩]) =
      .ok (.condition .or
          (.condition .equals (.variable "A") (some (.ofFloat 1)))
          (some (.condition .and
            (.condition .greaterThan (.variable "B") (some (.ofText "X")))
            (some (.condition .not (.variable "C") none)))),
        [⟨.symbol ':', 39, 40⟩, ⟨.word "END", 41, 44⟩]) := by
  have hfree : ∀ name ∈ ["A", "B", "C"], mixedLine.registry.IsFree name ∧ name ≠ "NOT-" := by
    unfold Registry.IsFree
    decide
  have hnamed : mixedCondition.IsNamed mixedLine.registry := by
    simp [mixedCondition, Disjunction.IsNamed, Chained.All, Atom.IsNamed, hfree]
  exact conditionSlot_of_kinds mixedLine 0 hnamed rfl rfl _

end StageScript
