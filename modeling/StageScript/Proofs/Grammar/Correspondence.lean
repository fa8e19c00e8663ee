import StageScript.Proofs.Grammar.Form

/-!
# Two ways to read a line

Much that is said of the grammar compares two ways to read: with deeper parsers, from tokens at
other places, in front of a parenthesis, with another registry, or with the same parsers, to say
what is read. Each of them relates tokens to tokens and params to params such that the two fit
together (`Correspondence`): related tokens start alike and lead on to related tokens, and what is
built alike from related params is related.

What a parser makes of its tokens, another one follows (`Correspondence.Follows`): where the first
reads something, it leaves tokens that stood behind those it took, and the second reads something
related and leaves related tokens. Where the first finds fault, the fault lies on the line and
quotes from one of the tokens on; and where faults are to be the same, the second finds it, too.
This module has the rules for the ways in which parsers are put together.
-/

namespace StageScript

/-! ### Tokens side by side -/

/-- Whether the next token stands directly behind this one. -/
def Token.touches (t : Token) : Tokens → Bool
  | [] => false
  | u :: _ => u.start == t.stop

namespace Tokens

/-- The tokens start with a closing parenthesis. -/
def Closes (ts : Tokens) : Prop := ∃ t rest, ts = t :: rest ∧ t.kind = .symbol ')'

/-- There is nothing to be read on: no token, or a parenthesis that closes what is read. -/
def Ends (ts : Tokens) : Prop := ts = [] ∨ ts.Closes

/-- **Two lists of tokens that start alike**, and go on with related ones. Where the first has come
to its end, the second ends. -/
inductive Beside (words : String → Prop) (columns : Nat → Nat → Prop)
    (R : Tokens → Tokens → Prop) : Tokens → Tokens → Prop
  | ends {ts' : Tokens} (h : ts'.Ends) : Beside words columns R [] ts'
  | cons {t t' : Token} {ts ts' : Tokens} (hkind : t'.kind = t.kind)
    (hword : ∀ word, t.kind = .word word → words word) (hcolumn : columns t.start t'.start)
    (htouches : ts ≠ [] → t'.touches ts' = t.touches ts) (h : R ts ts') :
    Beside words columns R (t :: ts) (t' :: ts')

variable {ts rest : Tokens} {p : TokenKind → Bool}

theorem cons_of_eat? (h : ts.eat? p = some rest) : ∃ t, ts = t :: rest := by
  cases ts with
  | nil => cases h
  | cons t ts =>
    simp only [eat?] at h
    split at h
    · cases h
      exact ⟨t, rfl⟩
    · cases h

theorem append_skipSymbol (c : Char) (ts : Tokens) : ∃ taken, ts = taken ++ ts.skipSymbol c := by
  unfold skipSymbol
  cases he : ts.eat? (·.isSymbol c) with
  | none => exact ⟨[], rfl⟩
  | some rest =>
    obtain ⟨t, rfl⟩ := cons_of_eat? he
    exact ⟨[t], rfl⟩

namespace Ends

variable (h : ts.Ends)
include h

theorem nextIs_eq (hp : p (.symbol ')') = false) : ts.nextIs p = false := by
  obtain rfl | ⟨t, rest, rfl, ht⟩ := h
  · rfl
  · simp only [nextIs, ht, hp]

theorem eat?_eq (hp : p (.symbol ')') = false) : ts.eat? p = none := by
  obtain rfl | ⟨t, rest, rfl, ht⟩ := h
  · rfl
  · simp [eat?, ht, hp]

theorem atParamEnd_eq : ts.atParamEnd = true := by
  obtain rfl | ⟨t, rest, rfl, ht⟩ := h
  · rfl
  · simp [atParamEnd, ht]

end Ends

end Tokens

/-! ### Faults -/

/-- What a cause quotes of the line, up to its end. -/
def Cause.quoted? : Cause → Option String
  | .unexpected _ rest | .trailingText rest => some rest
  | _ => none

/-- What a fault quotes of a line, it quotes from one of the tokens on. -/
def Fault.QuotesFrom (f : Fault) (line : Line) (ts : Tokens) : Prop :=
  ∀ rest, f.cause.quoted? = some rest → ∃ t ∈ ts, rest = line.textFrom t

/-- **The fault is found on the line**, in the tokens: it lies there, and what it quotes, it quotes
from one of the tokens on. -/
structure Line.Blames (line : Line) (ts : Tokens) (f : Fault) : Prop where
  line_eq : f.line = some line.number
  quotesFrom : f.QuotesFrom line ts

namespace Line.Blames

variable {line : Line} {ts : Tokens} {f : Fault}

theorem of_fault (line : Line) (ts : Tokens) {cause : Cause} (h : cause.quoted? = none) :
    line.Blames ts (line.fault cause) where
  line_eq := rfl
  quotesFrom rest hrest := by cases h.symm.trans hrest

theorem of_expected (line : Line) (what : String) (ts : Tokens) :
    line.Blames ts (line.expected what ts) := by
  cases ts with
  | nil => exact of_fault line [] rfl
  | cons t ts =>
    refine ⟨rfl, fun rest hrest => ?_⟩
    cases hrest
    exact ⟨t, List.mem_cons_self, rfl⟩

theorem behind (h : line.Blames ts f) (taken : Tokens) : line.Blames (taken ++ ts) f where
  line_eq := h.line_eq
  quotesFrom rest hrest := by
    obtain ⟨t, ht, rfl⟩ := h.quotesFrom rest hrest
    exact ⟨t, List.mem_append_right _ ht, rfl⟩

end Line.Blames

/-! ### Correspondences -/

/-- **Params and commands that are related by the way they are built**: `P` of params and `C` of
commands, the first of which is read from one line and the second from another. Literals are no
collections, names are free, and only objects are listed by `ALL`. -/
structure Line.Relates (line line' : Line) (columns : Nat → Nat → Prop)
    (P : Param → Param → Prop) (C : Command → Command → Prop) : Prop where
  isCondition_eq {p p' : Param} (h : P p p') : p'.isCondition = p.isCondition
  kind_eq {p p' : Param} (h : P p p') :
    StaticKind.ofParam line'.registry p' = StaticKind.ofParam line.registry p
  literal {v : Value} (h : v.kind ≠ .collection) : P (.value v) (.value v)
  name {name : String} (h : line.registry.IsFree name) : P (.variable name) (.variable name)
  loopIndex : P .loopIndex .loopIndex
  loopObject : P .loopObject .loopObject
  absent : P .absent .absent
  command {c c' : Command} (h : C c c') : P (.command c) (.command c')
  bindings {list list' : List (String × Param)}
    (h : List.Forall₂ (fun b b' => b'.1 = b.1 ∧ line.registry.IsFree b.1 ∧ P b.2 b'.2) list list') :
    P (.bindings list) (.bindings list')
  collection {element : ElementKind} {bare all : Bool} {items items' : List Param}
    (hall : all = true → element.isObject = true) (hitems : List.Forall₂ P items items') :
    P (.collection element bare all items) (.collection element bare all items')
  math {operator : MathOperator} {left left' : Param} {right right' : Option Param}
    (hleft : P left left') (hright : Option.Rel P right right') :
    P (.math operator left right) (.math operator left' right')
  concat {left left' right right' : Param} (hleft : P left left') (hright : P right right') :
    P (.concat left right) (.concat left' right')
  union {left left' right right' : Param} (hleft : P left left') (hright : P right right') :
    P (.union left right) (.union left' right')
  difference {left left' right right' : Param} (hleft : P left left') (hright : P right right') :
    P (.difference left right) (.difference left' right')
  condition {comparator : Comparator} {left left' : Param} {right right' : Option Param}
    (hleft : P left left') (hright : Option.Rel P right right') :
    P (.condition comparator left right) (.condition comparator left' right')
  ambiguous {operator : AmbiguousOperator} {column column' : Nat}
    {left left' right right' : Param} (hcolumn : columns column column') (hleft : P left left')
    (hright : P right right') :
    P (.ambiguous ⟨operator, line.number, column⟩ left right)
      (.ambiguous ⟨operator, line'.number, column'⟩ left' right')
  /-- A command of the line, with what its signature and its params say of it. -/
  params {c c' : Command} (hname : c'.name = c.name) (hline : c.line = line.number)
    (hline' : c'.line = line'.number) (hsigned : c.Signed line.registry line.number)
    (hparams : List.Forall₂ P c.params c'.params) : C c c'

/-- **Two ways to read**, from a line and from another one. -/
structure Correspondence (line line' : Line) where
  /-- Tokens to start from. -/
  tokens : Tokens → Tokens → Prop
  /-- Words that may stand among the tokens. -/
  words : String → Prop
  /-- Columns of operators. -/
  columns : Nat → Nat → Prop
  param : Param → Param → Prop
  command : Command → Command → Prop
  /-- Whether the second finds the same faults. -/
  SameFaults : Prop
  relates : line.Relates line' columns param command
  number_eq : line'.number = line.number
  next {ts ts' : Tokens} (h : tokens ts ts') : Tokens.Beside words columns tokens ts ts'
  signature?_eq {word : String} (h : words word) :
    line'.registry.signature? word = line.registry.signature? word
  signature?_of_some {key : String} {signature : Signature}
    (h : line.registry.signature? key = some signature) :
    line'.registry.signature? key = some signature
  line_eq (h : SameFaults) : line' = line
  tokens_eq (h : SameFaults) {ts ts' : Tokens} (hts : tokens ts ts') : ts' = ts

namespace Correspondence

variable {line line' : Line} (R : Correspondence line line')

/-- Operands with related params, of the same kind. -/
def operand (o o' : Operand) : Prop := R.param o.param o'.param ∧ o'.kind = o.kind

/-- Related params, the first of which has a shape. -/
def shaped (shape : Param → Prop) (p p' : Param) : Prop := R.param p p' ∧ shape p

/-- Params related one by one, the first of which have a shape. -/
def listed (shape : List Param → Prop) (ps ps' : List Param) : Prop :=
  List.Forall₂ R.param ps ps' ∧ shape ps

/-- Bindings of the same name, which is free. -/
def binding (b b' : String × Param) : Prop :=
  b'.1 = b.1 ∧ line.registry.IsFree b.1 ∧ R.param b.2 b'.2

/-- Operators of the same meaning, at related columns. -/
inductive FoldsAlike : Fold → Fold → Prop
  | math (operator : MathOperator) : FoldsAlike (.math operator) (.math operator)
  | concat : FoldsAlike .concat .concat
  | set (additive : Bool) : FoldsAlike (.set additive) (.set additive)
  | ambiguous (operator : AmbiguousOperator) {column column' : Nat}
    (h : R.columns column column') :
    FoldsAlike (.ambiguous operator column) (.ambiguous operator column')

/-- A token is taken from both, or from neither. -/
def EatsAlike (ts : Tokens) (o o' : Option Tokens) : Prop :=
  (o = none ∧ o' = none) ∨
    ∃ t rest rest', ts = t :: rest ∧ o = some rest ∧ o' = some rest' ∧ R.tokens rest rest'

/-- What is found at the next token is found in both, or in neither. -/
def FindsAlike {β : Type} (U : β → β → Prop) (ts : Tokens) (o o' : Option (β × Tokens)) : Prop :=
  (o = none ∧ o' = none) ∨ ∃ t rest rest' b b', ts = t :: rest ∧ o = some (b, rest) ∧
    o' = some (b', rest') ∧ U b b' ∧ R.tokens rest rest'

/-- **What one parser makes of its tokens and another of related ones.** At least so many tokens are
taken. -/
inductive Outcome {α : Type} (least : Nat) (V : α → α → Prop) :
    Tokens → Except Fault (α × Tokens) → Except Fault (α × Tokens) → Prop
  | ok {a a' : α} {taken rest rest' : Tokens} (hleast : least ≤ taken.length) (h : V a a')
    (hrest : R.tokens rest rest') :
    Outcome least V (taken ++ rest) (.ok (a, rest)) (.ok (a', rest'))
  | error {ts : Tokens} {f : Fault} {r' : Except Fault (α × Tokens)} (h : line.Blames ts f)
    (hsame : R.SameFaults → r' = .error f) : Outcome least V ts (.error f) r'

/-- **One parser follows another**, as long as there are fewer tokens than some size. -/
def Follows {α : Type} (size least : Nat) (V : α → α → Prop) (ts : Tokens)
    (r r' : Except Fault (α × Tokens)) : Prop :=
  ts.length < size → R.Outcome least V ts r r'

/-- What is no parser and quotes nothing gives related results. -/
def Gives {γ : Type} (V : γ → γ → Prop) (r r' : Except Fault γ) : Prop :=
  (∀ c, r = .ok c → ∃ c', r' = .ok c' ∧ V c c') ∧
    ∀ f, r = .error f → line.Blames [] f ∧ (R.SameFaults → r' = .error f)

/-! ### Looking at the next token -/

section Next

variable {R} {ts ts' : Tokens} {p : TokenKind → Bool}

theorem nextIs (p : TokenKind → Bool) (hp : p (.symbol ')') = false) (h : R.tokens ts ts') :
    ts'.nextIs p = ts.nextIs p := by
  cases R.next h with
  | ends hends => exact hends.nextIs_eq hp
  | cons hkind => simp only [Tokens.nextIs, hkind]

theorem atParamEnd (h : R.tokens ts ts') : ts'.atParamEnd = ts.atParamEnd := by
  cases R.next h with
  | ends hends => exact hends.atParamEnd_eq
  | cons hkind => simp only [Tokens.atParamEnd, hkind]

/-- One case for a token that is looked for and one for any other; it may not be a closing
parenthesis. -/
theorem eat?_alike (p : TokenKind → Bool) (hp : p (.symbol ')') = false) (h : R.tokens ts ts') :
    R.EatsAlike ts (ts.eat? p) (ts'.eat? p) := by
  cases R.next h with
  | ends hends => exact .inl ⟨rfl, hends.eat?_eq hp⟩
  | @cons t t' rest rest' hkind _ _ _ hrest =>
    cases ht : p t.kind with
    | false => exact .inl (by simp [Tokens.eat?, hkind, ht])
    | true => exact .inr ⟨t, rest, rest', rfl, by simp [Tokens.eat?, ht],
        by simp [Tokens.eat?, hkind, ht], hrest⟩

/-- A closing parenthesis that is taken from the first is taken from the second. -/
theorem eat?_of_some {rest : Tokens} (h : R.tokens ts ts') (hrest : ts.eat? p = some rest) :
    ∃ rest', ts'.eat? p = some rest' ∧ R.tokens rest rest' := by
  cases R.next h with
  | ends hends => cases hrest
  | @cons t t' _ rest' hkind _ _ _ htail =>
    simp only [Tokens.eat?] at hrest
    split at hrest
    · next ht =>
      cases hrest
      exact ⟨rest', by simp [Tokens.eat?, hkind, ht], htail⟩
    · cases hrest

theorem skipColon (h : R.tokens ts ts') :
    R.tokens (ts.skipSymbol ':') (ts'.skipSymbol ':') := by
  unfold Tokens.skipSymbol
  rcases eat?_alike (·.isSymbol ':') rfl h with ⟨hr, hr'⟩ | ⟨t, rest, rest', rfl, hr, hr', hrest⟩
  · rw [hr, hr']
    exact h
  · rw [hr, hr']
    exact hrest

theorem separator?_alike (h : R.tokens ts ts') :
    R.EatsAlike ts (separator? ts) (separator? ts') :=
  eat?_alike (fun t => t.isSymbol ',' || t.isSymbol '&' || t.isWord "AND") rfl h

theorem length_le (h : R.tokens ts ts') : ts.length ≤ ts'.length := by
  induction ts generalizing ts' with
  | nil => exact Nat.zero_le _
  | cons t ts ih =>
    cases R.next h with
    | cons _ _ _ _ hrest => exact Nat.succ_le_succ (ih hrest)

end Next

/-! ### Rules -/

section Gives

variable {R} {γ : Type} {V : γ → γ → Prop} {c c' : γ}

theorem Gives.ok (h : V c c') : R.Gives V (.ok c) (.ok c') := by
  refine ⟨fun d hd => ?_, nofun⟩
  cases hd
  exact ⟨c', rfl, h⟩

theorem Gives.fault (R : Correspondence line line') {cause : Cause} (h : cause.quoted? = none) :
    R.Gives V (.error (line.fault cause)) (.error (line'.fault cause)) := by
  refine ⟨nofun, fun f hf => ?_⟩
  cases hf
  exact ⟨.of_fault line [] h, fun hs => by rw [R.line_eq hs]⟩

end Gives

namespace Follows

variable {R} {α β γ : Type} {size least : Nat} {V : α → α → Prop} {W : β → β → Prop}
  {ts ts' rest rest' : Tokens} {t : Token} {r r' : Except Fault (α × Tokens)}

/-- Nothing more is taken. -/
theorem done {a a' : α} (h : V a a') (hts : R.tokens ts ts') :
    R.Follows size 0 V ts (.ok (a, ts)) (.ok (a', ts')) := by
  intro _
  show Outcome R 0 V ([] ++ ts) _ _
  exact .ok (Nat.le_refl 0) h hts

theorem fault {cause : Cause} (h : cause.quoted? = none) :
    R.Follows size least V ts (.error (line.fault cause)) (.error (line'.fault cause)) := fun _ =>
  .error (.of_fault line ts h) fun hs => by rw [R.line_eq hs]

theorem expected (what : String) (hts : R.tokens ts ts') :
    R.Follows size least V ts (.error (line.expected what ts))
      (.error (line'.expected what ts')) := fun _ =>
  .error (.of_expected line what ts) fun hs => by rw [R.line_eq hs, R.tokens_eq hs hts]

/-- What is read behind some tokens. -/
theorem behind (h : R.Follows size least V ts r r') (taken : Tokens) :
    R.Follows (size + taken.length) (least + taken.length) V (taken ++ ts) r r' := by
  intro hts
  rw [List.length_append] at hts
  have hout := h (by omega)
  cases hout with
  | @ok a a' more rest rest' hleast hV hrest =>
    rw [← List.append_assoc]
    refine .ok ?_ hV hrest
    rw [List.length_append]
    omega
  | error hblames hsame => exact .error (hblames.behind taken) hsame

theorem narrow {size' least' : Nat} (h : R.Follows size least V ts r r') (hsize : size' ≤ size)
    (hleast : least' ≤ least) : R.Follows size' least' V ts r r' := by
  intro hts
  have hout := h (Nat.lt_of_lt_of_le hts hsize)
  cases hout with
  | ok htaken hV hrest => exact .ok (Nat.le_trans hleast htaken) hV hrest
  | error hblames hsame => exact .error hblames hsame

theorem any (h : R.Follows size least V ts r r') : R.Follows size 0 V ts r r' :=
  h.narrow (Nat.le_refl _) (Nat.zero_le _)

theorem mono {V' : α → α → Prop} (h : R.Follows size least V ts r r')
    (hV : ∀ a a', V a a' → V' a a') : R.Follows size least V' ts r r' := by
  intro hts
  have hout := h hts
  cases hout with
  | ok htaken ha hrest => exact .ok htaken (hV _ _ ha) hrest
  | error hblames hsame => exact .error hblames hsame

/-- What is read behind the first token. -/
theorem cons (h : R.Follows size least V ts r r') :
    R.Follows (size + 1) (least + 1) V (t :: ts) r r' := h.behind [t]

/-- What is read behind the first token, of which no more is said than that it is taken. -/
theorem first (h : R.Follows size least V ts r r') : R.Follows size 1 V (t :: ts) r r' :=
  h.cons.narrow (Nat.le_succ _) (Nat.le_add_left 1 least)

/-- What is read behind the first token, which is not counted. -/
theorem tail (h : R.Follows size least V ts r r') : R.Follows size 0 V (t :: ts) r r' :=
  h.first.any

theorem skip (c : Char) (h : R.Follows size least V (ts.skipSymbol c) r r') :
    R.Follows size least V ts r r' := by
  obtain ⟨taken, hsplit⟩ := Tokens.append_skipSymbol c ts
  rw [hsplit]
  exact (h.behind taken).narrow (Nat.le_add_right _ _) (Nat.le_add_right _ _)

/-- Reading on behind what is left, which are fewer tokens by those that were taken. -/
theorem andThen_of {size' : Nat} {k k' : α × Tokens → Except Fault (β × Tokens)}
    (h : R.Follows size least V ts r r') (hsize : size ≤ size' + least)
    (hk : ∀ {a a' rest rest'}, V a a' → R.tokens rest rest' → rest.length + least ≤ ts.length →
      R.Follows size' 0 W rest (k (a, rest)) (k' (a', rest'))) :
    R.Follows size least W ts (r >>= k) (r' >>= k') := by
  intro hts
  have hout := h hts
  cases hout with
  | @ok a a' taken rest rest' hleast ha hrest =>
    have hlength : rest.length + least ≤ (taken ++ rest).length := by
      rw [List.length_append]
      omega
    exact ((hk ha hrest hlength).behind taken).narrow (by omega) (by omega) hts
  | error hblames hsame =>
    refine .error hblames fun hs => ?_
    rw [hsame hs]
    rfl

theorem andThen {k k' : α × Tokens → Except Fault (β × Tokens)}
    (h : R.Follows size least V ts r r')
    (hk : ∀ {a a' rest rest'}, V a a' → R.tokens rest rest' →
      R.Follows size 0 W rest (k (a, rest)) (k' (a', rest'))) :
    R.Follows size least W ts (r >>= k) (r' >>= k') :=
  h.andThen_of (Nat.le_add_right _ _) fun ha hrest _ => hk ha hrest

/-- Reading on behind something that is no parser. -/
theorem ofGives {U : γ → γ → Prop} {c c' : Except Fault γ}
    {k k' : γ → Except Fault (α × Tokens)} (h : R.Gives U c c')
    (hk : ∀ {d d'}, c = .ok d → U d d' → R.Follows size least V ts (k d) (k' d')) :
    R.Follows size least V ts (c >>= k) (c' >>= k') := by
  cases c with
  | ok d =>
    obtain ⟨d', rfl, hd⟩ := h.1 d rfl
    exact hk rfl hd
  | error f =>
    obtain ⟨hblames, hsame⟩ := h.2 f rfl
    intro _
    refine .error ⟨hblames.line_eq, fun rest hrest => ?_⟩ fun hs => ?_
    · obtain ⟨t, ht, -⟩ := hblames.quotesFrom rest hrest
      cases ht
    · rw [hsame hs]
      rfl

/-- What the first reads, the second reads, up to the relation. -/
theorem exists_of_ok {a : α} (h : R.Follows (ts.length + 1) least V ts r r')
    (hr : r = .ok (a, rest)) :
    ∃ a' rest', r' = .ok (a', rest') ∧ V a a' ∧ R.tokens rest rest' := by
  subst hr
  cases h (Nat.lt_succ_self _) with
  | ok _ ha hrest => exact ⟨_, _, rfl, ha, hrest⟩

/-! ### Repetition -/

/-- **A chain follows another if its steps do**, each of which stands behind an operator. The second
may be granted more steps, for neither stops for want of them. -/
theorem chain {U : β → β → Prop} {operator? : α → Tokens → Option (β × Tokens)}
    {step step' : α → β → Tokens → Except Fault (α × Tokens)}
    (ho : ∀ {left left' ts ts'}, V left left' → R.tokens ts ts' →
      R.FindsAlike U ts (operator? left ts) (operator? left' ts'))
    (hstep : ∀ {left left' b b' ts ts'}, V left left' → U b b' → R.tokens ts ts' →
      R.Follows size 0 V ts (step left b ts) (step' left' b' ts'))
    {left left' : α} (h : V left left') (hts : R.tokens ts ts') {budget budget' : Nat}
    (hle : budget ≤ budget') (hbudget : ts.length ≤ budget) :
    R.Follows size 0 V ts (chain operator? step budget left ts)
      (chain operator? step' budget' left' ts') := by
  induction budget generalizing left left' ts ts' budget' with
  | zero =>
    -- no token is left, so no operator is found
    obtain rfl : ts = [] := List.length_eq_zero_iff.mp (Nat.le_zero.mp hbudget)
    obtain ⟨-, hnone⟩ : operator? left [] = none ∧ operator? left' ts' = none := by
      rcases ho h hts with hnone | ⟨t, rest, _, _, _, hcons, _⟩
      · exact hnone
      · cases hcons
    cases budget' with
    | zero => exact done h hts
    | succ budget' =>
      unfold StageScript.chain
      rw [hnone]
      exact done h hts
  | succ budget ih =>
    obtain ⟨budget', rfl⟩ : ∃ k, budget' = k + 1 := ⟨budget' - 1, by omega⟩
    unfold StageScript.chain
    rcases ho h hts with ⟨hr, hr'⟩ | ⟨t, rest, rest', b, b', rfl, hr, hr', hb, hrest⟩
    · rw [hr, hr']
      exact done h hts
    · rw [hr, hr']
      refine tail ((hstep h hb hrest).andThen_of (Nat.le_refl _) fun hnext hts hlength => ?_)
      simp only [List.length_cons] at hbudget
      exact ih hnext hts (by omega) (by omega)

/-- What closes a list is followed. -/
theorem closing {unterminated : Cause} (hu : unterminated.quoted? = none) {a a' : α}
    (h : V a a') (hts : R.tokens ts ts') :
    R.Follows size 0 V ts (line.closing unterminated ts >>= fun rest => pure (a, rest))
      (line'.closing unterminated ts' >>= fun rest => pure (a', rest)) := by
  unfold Line.closing
  rcases eat?_alike (·.isSymbol ']') rfl hts with ⟨hr, hr'⟩ | ⟨t, rest, rest', rfl, hr, hr', hrest⟩
  · intro _
    rw [hr, hr']
    cases ts with
    | nil =>
      refine .error (.of_fault line [] hu) fun hs => ?_
      rw [R.tokens_eq hs hts, R.line_eq hs]
      rfl
    | cons t ts =>
      refine .error (.of_expected line _ _) fun hs => ?_
      rw [R.tokens_eq hs hts, R.line_eq hs]
      rfl
  · rw [hr, hr']
    exact (done h hrest).tail

/-- **A list follows another if its items do.** -/
theorem separated {unterminated : Cause} (hu : unterminated.quoted? = none)
    {item item' : Tokens → Except Fault (α × Tokens)}
    (hitem : ∀ {ts ts'}, R.tokens ts ts' → R.Follows size 1 V ts (item ts) (item' ts'))
    (hts : R.tokens ts ts') {budget budget' : Nat} (hle : budget ≤ budget')
    (hbudget : ts.length ≤ budget) :
    R.Follows size 1 (List.Forall₂ V) ts (separated line unterminated item budget ts)
      (separated line' unterminated item' budget' ts') := by
  have hlast : ∀ {a a' : α} {ts ts' : Tokens}, V a a' → R.tokens ts ts' →
      R.Follows size 0 (List.Forall₂ V) ts
        (line.closing unterminated ts >>= fun rest => pure ([a], rest))
        (line'.closing unterminated ts' >>= fun rest => pure ([a'], rest)) := fun ha hts =>
    closing hu (.cons ha .nil) hts
  induction budget generalizing ts ts' budget' with
  | zero =>
    -- an item takes a token, and there is none
    obtain rfl : ts = [] := List.length_eq_zero_iff.mp (Nat.le_zero.mp hbudget)
    have hnone : ∀ {k k' : α × Tokens → Except Fault (List α × Tokens)},
        R.Follows size 1 (List.Forall₂ V) [] (item [] >>= k) (item' ts' >>= k') := fun {k k'} =>
      (hitem hts).andThen_of (Nat.le_succ _) fun _ _ hlength => by
        simp only [List.length_nil] at hlength
        omega
    cases budget' with
    | zero => exact hnone
    | succ budget' => exact hnone
  | succ budget ih =>
    obtain ⟨budget', rfl⟩ : ∃ k, budget' = k + 1 := ⟨budget' - 1, by omega⟩
    refine (hitem hts).andThen_of (Nat.le_succ _) fun hfirst hrest hlength => ?_
    dsimp only
    rcases separator?_alike hrest with ⟨hr, hr'⟩ | ⟨t, rest, rest', rfl, hr, hr', hrest⟩
    · rw [hr, hr']
      exact hlast hfirst hrest
    · rw [hr, hr']
      simp only [List.length_cons] at hlength
      refine tail ((ih hrest (by omega) (by omega)).any.andThen fun hothers hts => ?_)
      exact done (.cons hfirst hothers) hts

end Follows

end Correspondence

end StageScript
