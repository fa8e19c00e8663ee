import StageScript.Proofs.Grammar.Correspondence

/-!
# The grammar respects correspondences

If two ways to read correspond, then each parser over related primaries and commands follows itself
(`Correspondence.Follows`): there is one lemma for each parser, with what it says of the shape of
what is read. From that the levels follow one another by induction (`Correspondence.follows_level`).
So whatever is to be shown of all parsers is shown by giving a correspondence.

Behind its first token a command and a primary are read by the parsers of the level below, so with
every level one token more may be read; and the levels of two lines that stand in the place of one
another need not be the same number of levels above the lowest one.
-/

namespace StageScript

/-! ### Steps of chains -/

namespace Line

/-- A step of a chain whose operator joins what was read with an operand. -/
def joinStep {β : Type} (join : Param → β → Param → Param)
    (operand : Tokens → Except Fault (Param × Tokens)) (left : Param) (b : β) (ts : Tokens) :
    Except Fault (Param × Tokens) := do
  let (right, ts) ← operand ts
  return (join left b right, ts)

/-- Joined by a comparison. -/
def compareWith (left : Param) (comparator : Comparator) (right : Param) : Param :=
  .condition comparator left (some right)

/-- Joined by a connective. -/
def connectBy (comparator : Comparator) (left : Param) (_ : Unit) (right : Param) : Param :=
  .condition comparator left (some right)

/-- Joined by a union or a difference. -/
def uniteBy (left : Param) (additive : Bool) (right : Param) : Param :=
  setOperation additive left right

theorem negated_of_not {line : Line} {primary : Tokens → Except Fault (Operand × Tokens)}
    {ts : Tokens} (h : ts.nextIs isNot = false) :
    negated line primary ts =
      valueExpr line primary .logical ts >>= fun read => pure (read.1.param, read.2) := by
  cases ts with
  | nil => rfl
  | cons t ts =>
    have ht : isNot t.kind = false := h
    rw [negated, ht]
    rfl

theorem signature?_of_lookUp {line : Line} {name : String} {signature : Signature}
    (h : line.lookUp name = .ok signature) : line.registry.signature? name = some signature := by
  unfold lookUp at h
  split at h
  · cases h
    assumption
  · cases h

theorem tierWord?_cases {ts ts' : Tokens} {tier : String} (h : tierWord? ts = some (tier, ts')) :
    tier = "WORLD" ∨ tier = "PROGRAM" := by
  cases ts with
  | nil => cases h
  | cons t ts =>
    simp only [tierWord?] at h
    split at h
    · cases h
      exact .inl rfl
    · split at h
      · cases h
        exact .inr rfl
      · cases h

end Line

namespace Correspondence

open Line

variable {line line' : Line} {R : Correspondence line line'} {size : Nat}

/-! ### Words -/

theorem follows_word (what : String) {ts ts' : Tokens} (hts : R.tokens ts ts') :
    R.Follows size 1 (fun w w' => w' = w ∧ R.words w) ts (line.word what ts)
      (line'.word what ts') := by
  cases R.next hts with
  | ends hends =>
    -- no word stands at the end, so both find fault
    have hfault : line'.word what ts' = .error (line'.expected what ts') := by
      obtain rfl | ⟨⟨kind, start, stop⟩, rest, rfl, ht⟩ := hends
      · rfl
      · cases ht
        rfl
    rw [hfault]
    exact .expected what hts
  | @cons t t' rest rest' hkind hword _ _ hrest =>
    obtain ⟨kind, start, stop⟩ := t
    obtain ⟨kind', start', stop'⟩ := t'
    cases hkind
    cases kind with
    | word w => exact (Follows.done ⟨rfl, hword w rfl⟩ hrest).first
    | number | text | symbol => exact .expected what hts

theorem follows_labelName {ts ts' : Tokens} (hts : R.tokens ts ts') :
    R.Follows size 1 (fun l l' => l' = l ∧ IsLabel l) ts (line.labelName ts)
      (line'.labelName ts') := by
  refine (follows_word _ hts).andThen fun {_ label _ _} hlabel hrest => ?_
  obtain ⟨rfl, -⟩ := hlabel
  dsimp only
  split
  · exact .fault rfl
  · next h =>
    refine .done ⟨rfl, ?_⟩ hrest
    by_cases hstart : label = startLabel
    · exact .inl hstart
    · exact .inr (by simpa [hstart] using h)

theorem hasCommand_eq {word : String} (h : R.words word) :
    line'.registry.hasCommand word = line.registry.hasCommand word := by
  unfold Registry.hasCommand
  rw [R.signature?_eq h]

theorem follows_variableName {ts ts' : Tokens} (hts : R.tokens ts ts') :
    R.Follows size 1 (fun n n' => n' = n ∧ line.registry.IsFree n) ts (line.variableName ts)
      (line'.variableName ts') := by
  refine (follows_word _ hts).andThen fun hname hrest => ?_
  obtain ⟨rfl, hword⟩ := hname
  dsimp only
  rw [hasCommand_eq hword]
  split
  · exact .fault rfl
  · next hreserved =>
    split
    · exact .fault rfl
    · next hcommand =>
      exact .done ⟨rfl, by simpa using hreserved, by simpa using hcommand⟩ hrest

theorem gives_lookUp (name : String) :
    R.Gives (fun s s' => s' = s) (line.lookUp name) (line'.lookUp name) := by
  cases h : line.registry.signature? name with
  | some signature =>
    have hfound := R.signature?_of_some h
    unfold lookUp
    rw [h, hfound]
    exact .ok rfl
  | none =>
    refine ⟨fun signature hsignature => ?_, fun f hf => ⟨?_, fun hs => ?_⟩⟩
    · rw [signature?_of_lookUp hsignature] at h
      cases h
    · unfold lookUp at hf
      rw [h] at hf
      cases hf
      exact .of_fault line [] rfl
    · rw [R.line_eq hs, hf]

/-! ### Operators -/

theorem fold?_alike (reading : Reading) {left left' : Operand} {ts ts' : Tokens}
    (h : R.operand left left') (hts : R.tokens ts ts') :
    R.FindsAlike R.FoldsAlike ts (fold? reading left ts) (fold? reading left' ts') := by
  cases R.next hts with
  | ends hends =>
    obtain rfl | ⟨t, rest, rfl, ht⟩ := hends
    · exact .inl ⟨rfl, rfl⟩
    · exact .inl ⟨rfl, by simp [fold?, ht, Sign.ofToken?, Sign.ofSymbol?]⟩
  | @cons t t' rest rest' hkind _ hcolumn _ hrest =>
    simp only [fold?, hkind, h.2]
    cases Sign.ofToken? reading t.kind with
    | none => exact .inl ⟨rfl, rfl⟩
    | some sign =>
      have hfound : ∀ {fold fold' : Fold}, R.FoldsAlike fold fold' →
          R.FindsAlike R.FoldsAlike (t :: rest) (some (fold, rest)) (some (fold', rest')) :=
        fun hfold => .inr ⟨t, rest, rest', _, _, rfl, rfl, rfl, hfold, hrest⟩
      simp only [Option.bind_eq_bind, Option.bind]
      cases left.kind <;> cases sign <;>
        first
          | exact .inl ⟨rfl, rfl⟩
          | exact hfound (.math _)
          | exact hfound .concat
          | exact hfound (.set _)
          | exact hfound (.ambiguous _ hcolumn)

/-- Operators that the next token alone decides on. -/
theorem sign_alike {β : Type} (sign? : TokenKind → Option β) {ts ts' : Tokens}
    (hclosing : sign? (.symbol ')') = none)
    {operator? : Param → Tokens → Option (β × Tokens)} (hnil : ∀ left, operator? left [] = none)
    (hcons : ∀ left t ts, operator? left (t :: ts) = (sign? t.kind).map (·, ts))
    {left left' : Param} (hts : R.tokens ts ts') :
    R.FindsAlike Eq ts (operator? left ts) (operator? left' ts') := by
  cases R.next hts with
  | ends hends =>
    obtain rfl | ⟨t, rest, rfl, ht⟩ := hends
    · exact .inl ⟨hnil left, hnil left'⟩
    · exact .inl ⟨hnil left, by rw [hcons, ht, hclosing, Option.map_none]⟩
  | @cons t t' rest rest' hkind _ _ _ hrest =>
    rw [hcons, hcons, hkind]
    cases sign? t.kind with
    | none => exact .inl ⟨rfl, rfl⟩
    | some b => exact .inr ⟨t, rest, rest', b, b, rfl, rfl, rfl, rfl, hrest⟩

theorem comparisonSign?_alike {left left' : Param} {ts ts' : Tokens} (hts : R.tokens ts ts') :
    R.FindsAlike Eq ts (comparisonSign? left ts) (comparisonSign? left' ts') :=
  sign_alike comparator? rfl (fun _ => rfl) (fun _ _ _ => rfl) hts

theorem setOperator?_alike {left left' : Param} {ts ts' : Tokens} (hts : R.tokens ts ts') :
    R.FindsAlike Eq ts (setOperator? left ts) (setOperator? left' ts') :=
  sign_alike setSign? rfl (fun _ => rfl) (fun _ _ _ => rfl) hts

theorem connective?_alike (p : TokenKind → Bool) (hp : p (.symbol ')') = false)
    {left left' : Param} {ts ts' : Tokens} (hts : R.tokens ts ts') :
    R.FindsAlike Eq ts (connective? p left ts) (connective? p left' ts') := by
  unfold connective?
  rcases eat?_alike p hp hts with ⟨hr, hr'⟩ | ⟨t, rest, rest', rfl, hr, hr', hrest⟩
  · rw [hr, hr']
    exact .inl ⟨rfl, rfl⟩
  · rw [hr, hr']
    exact .inr ⟨t, rest, rest', (), (), rfl, rfl, rfl, rfl, hrest⟩

/-! ### Expressions -/

section Expressions

variable {primary primary' : Tokens → Except Fault (Operand × Tokens)}
  (hp : ∀ {ts ts'}, R.tokens ts ts' → R.Follows size 1 R.operand ts (primary ts) (primary' ts'))
  {ts ts' : Tokens}

theorem param_setOperation (additive : Bool) {left left' right right' : Param}
    (hl : R.param left left') (hr : R.param right right') :
    R.param (setOperation additive left right) (setOperation additive left' right') := by
  cases additive
  · exact R.relates.difference hl hr
  · exact R.relates.union hl hr

theorem param_bareCollection (element : ElementKind) {p p' : Param} (h : R.param p p') :
    R.param (bareCollection element p) (bareCollection element p') :=
  R.relates.collection nofun (.cons h .nil)

theorem follows_joinStep {β : Type} {V U : Param → Param → Prop}
    (join : Param → β → Param → Param)
    (hjoin : ∀ {l l' r r'} (b : β), V l l' → U r r' → V (join l b r) (join l' b r'))
    {operand operand' : Tokens → Except Fault (Param × Tokens)}
    (ho : ∀ {ts ts'}, R.tokens ts ts' → R.Follows size 1 U ts (operand ts) (operand' ts'))
    {left left' : Param} {b b' : β} (hleft : V left left') (hb : b = b') (hts : R.tokens ts ts') :
    R.Follows size 0 V ts (joinStep join operand left b ts)
      (joinStep join operand' left' b' ts') := by
  subst hb
  exact (ho hts).any.andThen fun hright hrest => .done (hjoin b hleft hright) hrest

include hp

theorem follows_setOperand (hts : R.tokens ts ts') :
    R.Follows size 1 R.param ts (setOperand primary ts) (setOperand primary' ts') := by
  refine (hp hts).andThen fun ho hrest => ?_
  dsimp only
  rw [nextIs _ rfl hts]
  split
  · exact .done ho.1 hrest
  · exact .done (param_bareCollection .any ho.1) hrest

/-- One case for each meaning of an operator. -/
theorem follows_foldStep {left left' : Operand} {fold fold' : Fold} (hl : R.operand left left')
    (hfold : R.FoldsAlike fold fold') (hts : R.tokens ts ts') :
    R.Follows size 0 R.operand ts (foldStep line primary left fold ts)
      (foldStep line' primary' left' fold' ts') := by
  have hright := (hp hts).any
  cases hfold with
  | math operator =>
    cases operator with
    | squared => exact .done ⟨R.relates.math hl.1 .none, rfl⟩ hts
    | _ => exact hright.andThen fun hr hrest => .done ⟨R.relates.math hl.1 (.some hr.1), rfl⟩ hrest
  | concat => exact hright.andThen fun hr hrest => .done ⟨R.relates.concat hl.1 hr.1, rfl⟩ hrest
  | set additive =>
    exact (follows_setOperand hp hts).any.andThen fun hr hrest =>
      .done ⟨param_setOperation additive hl.1 hr, rfl⟩ hrest
  | ambiguous operator hcolumn =>
    exact hright.andThen fun hr hrest =>
      .done ⟨R.relates.ambiguous hcolumn hl.1 hr.1, rfl⟩ hrest

theorem follows_valueExpr (reading : Reading) (hts : R.tokens ts ts') :
    R.Follows size 1 R.operand ts (valueExpr line primary reading ts)
      (valueExpr line' primary' reading ts') :=
  (hp hts).andThen fun hleft hrest =>
    .chain (V := R.operand) (fold?_alike reading) (follows_foldStep hp) hleft hrest
      (length_le hrest) (Nat.le_refl _)

/-- By induction on the tokens, as negations are taken off one by one. -/
theorem follows_negated (hts : R.tokens ts ts') :
    R.Follows size 1 R.param ts (negated line primary ts) (negated line' primary' ts') := by
  have hoperand : ∀ {ts ts'}, R.tokens ts ts' → ts.nextIs isNot = false →
      R.Follows size 1 R.param ts (negated line primary ts) (negated line' primary' ts') := by
    intro ts ts' hts hnot
    rw [negated_of_not hnot, negated_of_not ((nextIs isNot rfl hts).trans hnot)]
    exact (follows_valueExpr hp .logical hts).andThen fun ho hrest => .done ho.1 hrest
  induction ts generalizing ts' with
  | nil => exact hoperand hts rfl
  | cons t ts ih =>
    cases hnot : isNot t.kind with
    | false => exact hoperand hts hnot
    | true =>
      cases R.next hts with
      | cons hkind _ _ _ hrest =>
        unfold negated
        rw [hkind, if_pos hnot, if_pos hnot]
        refine Follows.first ((ih hrest).andThen fun hinner hrest => ?_)
        exact .done (R.relates.condition hinner .none) hrest

section From

variable {left left' : Param}

theorem follows_comparisonsFrom (hl : R.param left left') (hts : R.tokens ts ts') :
    R.Follows size 0 R.param ts (comparisonsFrom line primary left ts)
      (comparisonsFrom line' primary' left' ts') :=
  .chain (fun _ => comparisonSign?_alike)
    (follows_joinStep compareWith
      (fun _ hl hr => R.relates.condition hl (.some hr)) (follows_negated hp))
    hl hts (length_le hts) (Nat.le_refl _)

theorem follows_comparisons (hts : R.tokens ts ts') :
    R.Follows size 1 R.param ts (comparisons line primary ts) (comparisons line' primary' ts') :=
  (follows_negated hp hts).andThen fun hl hrest => follows_comparisonsFrom hp hl hrest

theorem follows_conjunctionFrom (hl : R.param left left') (hts : R.tokens ts ts') :
    R.Follows size 0 R.param ts (conjunctionFrom line primary left ts)
      (conjunctionFrom line' primary' left' ts') :=
  .chain (fun _ => connective?_alike isAnd rfl)
    (follows_joinStep (connectBy .and)
      (fun _ hl hr => R.relates.condition hl (.some hr)) (follows_comparisons hp))
    hl hts (length_le hts) (Nat.le_refl _)

theorem follows_conjunction (hts : R.tokens ts ts') :
    R.Follows size 1 R.param ts (conjunction line primary ts) (conjunction line' primary' ts') :=
  (follows_comparisons hp hts).andThen fun hl hrest => follows_conjunctionFrom hp hl hrest

theorem follows_disjunctionFrom (hl : R.param left left') (hts : R.tokens ts ts') :
    R.Follows size 0 R.param ts (disjunctionFrom line primary left ts)
      (disjunctionFrom line' primary' left' ts') :=
  .chain (fun _ => connective?_alike isOr rfl)
    (follows_joinStep (connectBy .or)
      (fun _ hl hr => R.relates.condition hl (.some hr)) (follows_conjunction hp))
    hl hts (length_le hts) (Nat.le_refl _)

theorem follows_disjunction (hts : R.tokens ts ts') :
    R.Follows size 1 R.param ts (disjunction line primary ts) (disjunction line' primary' ts') :=
  (follows_conjunction hp hts).andThen fun hl hrest => follows_disjunctionFrom hp hl hrest

theorem follows_conditionFrom (hl : R.param left left') (hts : R.tokens ts ts') :
    R.Follows size 0 R.param ts (conditionFrom line primary left ts)
      (conditionFrom line' primary' left' ts') :=
  (follows_comparisonsFrom hp hl hts).andThen fun hl hrest =>
    (follows_conjunctionFrom hp hl hrest).andThen fun hl hrest =>
      follows_disjunctionFrom hp hl hrest

end From

theorem follows_valueSlot (hts : R.tokens ts ts') :
    R.Follows size 1 R.param ts (valueSlot line primary ts) (valueSlot line' primary' ts') := by
  unfold valueSlot
  rw [nextIs startsCondition rfl hts]
  split
  · exact follows_disjunction hp hts
  · refine (follows_valueExpr hp .value hts).andThen fun {left left' rest rest'} hl hrest => ?_
    have hfollows : conditionFollows rest' = conditionFollows rest := nextIs _ rfl hrest
    dsimp only
    rw [hl.2, hfollows]
    split
    · exact follows_conditionFrom hp hl.1 hrest
    · exact .done hl.1 hrest

theorem follows_conditionSlot (hts : R.tokens ts ts') :
    R.Follows size 1 (R.shaped (·.isCondition = true)) ts (conditionSlot line primary ts)
      (conditionSlot line' primary' ts') := by
  refine (follows_disjunction hp hts).andThen fun hcondition hrest => ?_
  dsimp only
  rw [R.relates.isCondition_eq hcondition]
  split
  · next his => exact .done ⟨hcondition, his⟩ hrest
  · exact .done ⟨R.relates.condition hcondition .none, rfl⟩ hrest

/-! ### Collections -/

omit hp in
theorem allOf?_alike (hts : R.tokens ts ts') :
    (allOf? ts = none ∧ allOf? ts' = none) ∨ ∃ t u rest rest', ts = t :: u :: rest ∧
      allOf? ts = some rest ∧ allOf? ts' = some rest' ∧ R.tokens rest rest' := by
  cases R.next hts with
  | ends hends =>
    obtain rfl | ⟨⟨kind, start, stop⟩, rest, rfl, ht⟩ := hends
    · exact .inl ⟨rfl, rfl⟩
    · cases ht
      cases rest <;> exact .inl ⟨rfl, rfl⟩
  | @cons t t' rest rest' hkind _ _ _ hrest =>
    cases R.next hrest with
    | ends hends =>
      obtain rfl | ⟨⟨kind, start, stop⟩, rest, rfl, hu⟩ := hends
      · exact .inl ⟨rfl, rfl⟩
      · cases hu
        exact .inl ⟨rfl, by simp [allOf?, TokenKind.isSymbol]⟩
    | @cons u u' rest rest' hkind' _ _ _ htail =>
      simp only [allOf?, hkind, hkind']
      split
      · exact .inr ⟨t, u, rest, rest', rfl, rfl, rfl, htail⟩
      · exact .inl ⟨rfl, rfl⟩

theorem follows_collectionLiteral (element : ElementKind) (hts : R.tokens ts ts') :
    R.Follows size 1 (R.shaped (·.isCollection = true)) ts
      (collectionLiteral line primary element ts)
      (collectionLiteral line' primary' element ts') := by
  unfold collectionLiteral
  rcases allOf?_alike hts with ⟨hall, hall'⟩ | ⟨t, u, rest, rest', rfl, hall, hall', hrest⟩
  · rw [hall, hall']
    rcases eat?_alike (·.isSymbol ']') rfl hts with
      ⟨hr, hr'⟩ | ⟨t, rest, rest', rfl, hr, hr', hrest⟩
    · rw [hr, hr']
      refine (Follows.separated rfl (follows_comparisons hp) hts (length_le hts)
        (Nat.le_refl _)).andThen fun hitems hrest => ?_
      exact .done ⟨R.relates.collection nofun hitems, rfl⟩ hrest
    · rw [hr, hr']
      exact (Follows.done ⟨R.relates.collection nofun .nil, rfl⟩ hrest).first
  · rw [hall, hall']
    dsimp only
    split
    · next hobject =>
      exact (Follows.done ⟨R.relates.collection (fun _ => hobject) .nil, rfl⟩ hrest).first.first
    · exact .fault rfl

theorem follows_collectionOperand (element : ElementKind) (hts : R.tokens ts ts') :
    R.Follows size 1 (R.shaped (·.isCollection = true)) ts
      (collectionOperand line primary element ts)
      (collectionOperand line' primary' element ts') := by
  unfold collectionOperand
  rcases eat?_alike (·.isSymbol '[') rfl hts with ⟨hr, hr'⟩ | ⟨t, rest, rest', rfl, hr, hr', hrest⟩
  · rw [hr, hr']
    exact (hp hts).andThen fun ho hrest => .done ⟨param_bareCollection element ho.1, rfl⟩ hrest
  · rw [hr, hr']
    exact (follows_collectionLiteral hp element hrest).first

theorem follows_collectionSlot (element : ElementKind) (hts : R.tokens ts ts') :
    R.Follows size 1 (R.shaped (·.isCollection = true)) ts
      (collectionSlot line primary element ts) (collectionSlot line' primary' element ts') := by
  refine (follows_collectionOperand hp element hts).andThen fun hl hrest => ?_
  refine .chain (fun _ => setOperator?_alike)
    (follows_joinStep uniteBy (fun additive hl hr => ?_)
      (follows_collectionOperand hp element)) hl hrest (length_le hrest) (Nat.le_refl _)
  exact ⟨param_setOperation additive hl.1 hr.1, isCollection_setOperation _ _ _⟩

end Expressions

end Correspondence

/-! ### Commands -/

/-- **A level is followed by another**, as long as there are fewer tokens than some size. -/
structure Level.FollowedBy {line line' : Line} (R : Correspondence line line') (size : Nat)
    (nested nested' : Level) : Prop where
  command : ∀ {ts ts'}, R.tokens ts ts' →
    R.Follows size 1 R.command ts (nested.command ts) (nested'.command ts')
  primary : ∀ {ts ts'}, R.tokens ts ts' →
    R.Follows size 1 R.operand ts (nested.primary ts) (nested'.primary ts')

theorem Level.FollowedBy.narrow {line line' : Line} {R : Correspondence line line'}
    {size size' : Nat} {nested nested' : Level} (h : nested.FollowedBy R size nested')
    (hle : size' ≤ size) : nested.FollowedBy R size' nested' where
  command hts := (h.command hts).narrow hle (Nat.le_refl _)
  primary hts := (h.primary hts).narrow hle (Nat.le_refl _)

namespace Correspondence

open Line

variable {line line' : Line} {R : Correspondence line line'} {size : Nat} {ts ts' : Tokens}

/-- The number of the line as a param. -/
theorem param_ofLine : R.param (.ofLine line.number) (.ofLine line'.number) := by
  rw [R.number_eq]
  exact R.relates.literal nofun

theorem setter?_alike (hts : R.tokens ts ts') : R.EatsAlike ts (setter? ts) (setter? ts') :=
  eat?_alike (fun t => t.isSymbol '=' || t.isWordOf ["TO", "IS", "AS", "EQUALS"]) rfl hts

theorem tierWord?_alike (hts : R.tokens ts ts') :
    R.FindsAlike Eq ts (tierWord? ts) (tierWord? ts') := by
  cases R.next hts with
  | ends hends =>
    obtain rfl | ⟨⟨kind, start, stop⟩, rest, rfl, ht⟩ := hends
    · exact .inl ⟨rfl, rfl⟩
    · cases ht
      exact .inl ⟨rfl, rfl⟩
  | @cons t t' rest rest' hkind _ _ _ hrest =>
    simp only [tierWord?, hkind]
    split
    · exact .inr ⟨t, rest, rest', _, _, rfl, rfl, rfl, rfl, hrest⟩
    · split
      · exact .inr ⟨t, rest, rest', _, _, rfl, rfl, rfl, rfl, hrest⟩
      · exact .inl ⟨rfl, rfl⟩

/-- A number stands directly behind a minus sign in both, or in neither. -/
theorem negativeLiteral?_alike {t t' : Token}
    (htouches : ts ≠ [] → t'.touches ts' = t.touches ts) (hts : R.tokens ts ts') :
    R.FindsAlike Eq ts (negativeLiteral? t ts) (negativeLiteral? t' ts') := by
  cases R.next hts with
  | ends hends =>
    obtain rfl | ⟨⟨kind, start, stop⟩, rest, rfl, ht⟩ := hends
    · exact .inl ⟨rfl, rfl⟩
    · cases ht
      exact .inl ⟨rfl, rfl⟩
  | @cons u u' rest rest' hkind _ _ _ hrest =>
    obtain ⟨kind, start, stop⟩ := u
    obtain ⟨kind', start', stop'⟩ := u'
    cases hkind
    cases kind with
    | number x =>
      have hstart : start' = t'.stop ↔ start = t.stop := by
        simpa [Token.touches] using Bool.eq_iff_iff.mp (htouches nofun)
      simp only [negativeLiteral?, hstart]
      split
      · exact .inr ⟨_, rest, rest', _, _, rfl, rfl, rfl, rfl, hrest⟩
      · exact .inl ⟨rfl, rfl⟩
    | word | text | symbol => exact .inl ⟨rfl, rfl⟩

theorem follows_unsetParams (hts : R.tokens ts ts') :
    R.Follows size 1 (R.listed line.registry.Names) ts (line.unsetParams ts)
      (line'.unsetParams ts') := by
  refine (follows_variableName hts).andThen fun {_ name _ _} hname hrest => ?_
  obtain ⟨rfl, hfree⟩ := hname
  exact .done ⟨.cons (R.relates.literal nofun) .nil, name, rfl, hfree⟩ hrest

section Nested

variable {nested nested' : Level} (hn : nested.FollowedBy R size nested')
include hn

/-! ### Forms -/

theorem follows_assignment (hts : R.tokens ts ts') :
    R.Follows size 1 R.binding ts (line.assignment nested ts) (line'.assignment nested' ts') := by
  refine (follows_variableName hts).andThen fun hname hrest => ?_
  obtain ⟨rfl, hfree⟩ := hname
  dsimp only
  rcases setter?_alike hrest with ⟨hr, hr'⟩ | ⟨t, rest, rest', rfl, hr, hr', hrest⟩
  · rw [hr, hr']
    exact .expected _ hrest
  · rw [hr, hr']
    refine Follows.tail ((follows_valueSlot hn.primary hrest).andThen fun hvalue hrest => ?_)
    exact .done ⟨rfl, hfree, hvalue⟩ hrest

theorem follows_setParams (hts : R.tokens ts ts') :
    R.Follows size 1 (R.listed line.registry.NamesValue) ts (line.setParams nested ts)
      (line'.setParams nested' ts') := by
  refine (follows_assignment hn hts).andThen fun {b b' _ _} h hrest => ?_
  obtain ⟨name, value⟩ := b
  obtain ⟨name', value'⟩ := b'
  obtain ⟨heq, hfree, hvalue⟩ := h
  cases heq
  exact .done ⟨.cons (R.relates.literal nofun) (.cons hvalue .nil), name, value, rfl, hfree⟩ hrest

theorem follows_binding (hts : R.tokens ts ts') :
    R.Follows size 1 R.binding ts (line.binding nested ts) (line'.binding nested' ts') := by
  refine (follows_variableName hts).andThen fun hname hrest => ?_
  obtain ⟨rfl, hfree⟩ := hname
  dsimp only
  rcases setter?_alike hrest with ⟨hr, hr'⟩ | ⟨t, rest, rest', rfl, hr, hr', hrest⟩
  · rw [hr, hr']
    exact .done ⟨rfl, hfree, R.relates.name hfree⟩ hrest
  · rw [hr, hr']
    refine Follows.tail ((follows_comparisons hn.primary hrest).andThen fun hvalue hrest => ?_)
    exact .done ⟨rfl, hfree, hvalue⟩ hrest

theorem follows_bindingList (hts : R.tokens ts ts') :
    R.Follows size 1 (R.shaped fun p => ∃ list, p = .bindings list) ts
      (line.bindingList nested ts) (line'.bindingList nested' ts') := by
  unfold bindingList
  rcases eat?_alike (·.isSymbol '[') rfl hts with ⟨hr, hr'⟩ | ⟨t, list, list', rfl, hr, hr', hlist⟩
  · rw [hr, hr']
    exact .expected _ hts
  · rw [hr, hr']
    dsimp only
    rcases eat?_alike (·.isSymbol ']') rfl hlist with
      ⟨hr, hr'⟩ | ⟨u, rest, rest', rfl, hr, hr', hrest⟩
    · rw [hr, hr']
      refine Follows.first ((Follows.separated rfl (follows_binding hn) hlist (length_le hlist)
        (Nat.le_refl _)).andThen fun {list _ _ _} hlist hrest => ?_)
      exact .done ⟨R.relates.bindings hlist, list, rfl⟩ hrest
    · rw [hr, hr']
      exact (Follows.done ⟨R.relates.bindings .nil, [], rfl⟩ hrest).tail.first

/-- One case for each kind of slot. -/
theorem follows_slot (kind : ParamKind) (hts : R.tokens ts ts') :
    R.Follows size 0 (R.shaped (kind.Fits line.registry line.number)) ts (line.slot nested kind ts)
      (line'.slot nested' kind ts') := by
  cases kind with
  | command =>
    exact (hn.command hts).any.andThen fun {c _ _ _} hc hrest =>
      .done ⟨R.relates.command hc, c, rfl⟩ hrest
  | label =>
    refine (follows_labelName hts).any.andThen fun {_ label _ _} h hrest => ?_
    obtain ⟨rfl, hlabel⟩ := h
    exact .done ⟨R.relates.literal nofun, label, rfl, hlabel⟩ hrest
  | name =>
    refine (follows_variableName hts).any.andThen fun {_ name _ _} h hrest => ?_
    obtain ⟨rfl, hfree⟩ := h
    exact .done ⟨R.relates.literal nofun, name, rfl, hfree⟩ hrest
  | line => exact .done ⟨param_ofLine, rfl⟩ hts
  | bindings => exact (follows_bindingList hn hts).any
  | collection element => exact (follows_collectionSlot hn.primary element hts).any
  | boolean => exact (follows_conditionSlot hn.primary hts).any
  | any | number | text =>
    exact (follows_valueSlot hn.primary hts).any.mono fun _ _ h => ⟨h, trivial⟩

/-- By induction on the kinds of the slots. -/
theorem follows_standardParams (signature : Signature) (kinds : List ParamKind)
    (hts : R.tokens ts ts') :
    R.Follows size 0
      (R.listed (List.Forall₂ (ParamKind.Fits line.registry line.number) kinds)) ts
      (line.standardParams nested signature kinds ts)
      (line'.standardParams nested' signature kinds ts') := by
  induction kinds generalizing ts ts' with
  | nil =>
    simp only [standardParams]
    exact .done ⟨.nil, .nil⟩ hts
  | cons kind kinds ih =>
    cases kind with
    | line =>
      simp only [standardParams]
      exact (ih hts).andThen fun hps hrest =>
        .done ⟨.cons param_ofLine hps.1, .cons rfl hps.2⟩ hrest
    | _ =>
      simp only [standardParams, atParamEnd (skipColon hts)]
      refine Follows.skip ':' ?_
      split
      · exact .fault rfl
      · exact (follows_slot hn _ (skipColon hts)).andThen fun hp hrest =>
          (ih hrest).andThen fun hps hrest => .done ⟨.cons hp.1 hps.1, .cons hp.2 hps.2⟩ hrest

/-- What the params of a command are read as, with the signature they belong to. -/
def signedParams (R : Correspondence line line')
    (shape : Signature → List Param → Prop) (read read' : Signature × List Param) : Prop :=
  read'.1 = read.1 ∧ R.listed (shape read.1) read.2 read'.2

/-- Params for targets, or those of the command that is taken for a tier. -/
theorem follows_targetParams (signature : Signature) (setting : Bool) (hts : R.tokens ts ts') :
    R.Follows size 0
      (R.signedParams fun signed ps => signed = signature ∧ Param.TargetsBefore
          (if setting then line.registry.NamesValue else line.registry.Names) ps ∨
        ∃ key, line.registry.signature? key = some signed ∧
          Signature.Redirected line.registry key ps) ts
      (line.targetParams nested signature setting ts)
      (line'.targetParams nested' signature setting ts') := by
  have hparams : ∀ {ts ts'}, R.tokens ts ts' → R.Follows size 0
      (R.listed (if setting then line.registry.NamesValue else line.registry.Names)) ts
      ((if setting then line.setParams nested else line.unsetParams) (ts.skipSymbol ':'))
      ((if setting then line'.setParams nested' else line'.unsetParams) (ts'.skipSymbol ':')) := by
    intro ts ts' hts
    refine .skip ':' ?_
    cases setting
    · exact (follows_unsetParams (skipColon hts)).any
    · exact (follows_setParams hn (skipColon hts)).any
  unfold targetParams
  dsimp only
  rcases tierWord?_alike hts with
    ⟨hr, hr'⟩ | ⟨t, rest, rest', tier, tier', rfl, hr, hr', rfl, hrest⟩
  · rw [hr, hr']
    refine (follows_collectionSlot hn.primary .character hts).any.andThen fun htargets hrest => ?_
    refine (hparams hrest).andThen fun hps hrest => .done ⟨rfl, .cons htargets.1 hps.1, ?_⟩ hrest
    exact .inl ⟨rfl, _, _, rfl, htargets.2, hps.2⟩
  · have htier := tierWord?_cases hr
    rw [hr, hr']
    refine Follows.tail (.ofGives (gives_lookUp _) fun hlookUp hredirected =>
      (hparams hrest).andThen fun hps hrest => .done ⟨hredirected, hps.1, .inr ?_⟩ hrest)
    refine ⟨_, signature?_of_lookUp hlookUp, ?_⟩
    -- the four keys are those of the two tiers, for setting and for removing
    rcases htier with rfl | rfl <;> cases setting
    · exact .inr ⟨by decide, hps.2⟩
    · exact .inl ⟨by decide, hps.2⟩
    · exact .inr ⟨by decide, hps.2⟩
    · exact .inl ⟨by decide, hps.2⟩

theorem follows_withList (hts : R.tokens ts ts') :
    R.Follows size 0 (R.shaped fun p => ∃ list, p = .bindings list) ts (line.withList nested ts)
      (line'.withList nested' ts') := by
  unfold withList
  rcases eat?_alike (·.isWord "WITH") rfl (skipColon hts) with
    ⟨hr, hr'⟩ | ⟨t, rest, rest', heq, hr, hr', hrest⟩
  · -- a colon that stands there is left, too
    rw [hr, hr']
    exact .done ⟨R.relates.bindings .nil, [], rfl⟩ hts
  · rw [hr, hr']
    refine Follows.skip ':' ?_
    rw [heq]
    exact Follows.tail (.skip ':' (follows_bindingList hn (skipColon hrest)))

theorem follows_callParams (hts : R.tokens ts ts') :
    R.Follows size 0 (R.listed fun ps => ∃ label list,
        ps = [.ofText label, .bindings list, .ofLine line.number] ∧ IsLabel label) ts
      (line.callParams nested ts) (line'.callParams nested' ts') := by
  refine (follows_labelName hts).any.andThen fun {_ label _ _} hlabel hrest => ?_
  obtain ⟨rfl, hlabel⟩ := hlabel
  refine (follows_withList hn hrest).andThen fun {p _ _ _} hlist hrest => ?_
  obtain ⟨hp, list, rfl⟩ := hlist
  exact .done ⟨.cons (R.relates.literal nofun) (.cons hp (.cons param_ofLine .nil)), label, list,
    rfl, hlabel⟩ hrest

theorem follows_elseBranch (hts : R.tokens ts ts') :
    R.Follows size 0 (R.shaped fun p => p = .absent ∨ ∃ d, p = .command d) ts
      (elseBranch nested ts) (elseBranch nested' ts') := by
  unfold elseBranch
  rcases eat?_alike (·.isWord "ELSE") rfl (skipColon hts) with
    ⟨hr, hr'⟩ | ⟨t, rest, rest', heq, hr, hr', hrest⟩
  · rw [hr, hr']
    exact .done ⟨R.relates.absent, .inl rfl⟩ hts
  · rw [hr, hr']
    refine Follows.skip ':' ?_
    rw [heq]
    refine Follows.tail (.skip ':' ((hn.command (skipColon hrest)).any.andThen
      fun {d _ _ _} hd hrest => ?_))
    exact .done ⟨R.relates.command hd, .inr ⟨d, rfl⟩⟩ hrest

theorem follows_conditionalParams (hts : R.tokens ts ts') :
    R.Follows size 0 (R.listed fun ps => ∃ condition c otherwise,
        ps = [condition, .command c, otherwise] ∧ condition.isCondition = true ∧
          (otherwise = .absent ∨ ∃ d, otherwise = .command d)) ts
      (line.conditionalParams nested ts) (line'.conditionalParams nested' ts') := by
  refine (follows_conditionSlot hn.primary hts).any.andThen
    fun {condition _ _ _} hcondition hrest => ?_
  refine Follows.skip ':' ((hn.command (skipColon hrest)).any.andThen fun {c _ _ _} hc hrest => ?_)
  refine (follows_elseBranch hn hrest).andThen fun {otherwise _ _ _} helse hrest => ?_
  exact .done ⟨.cons hcondition.1 (.cons (R.relates.command hc) (.cons helse.1 .nil)), condition, c,
    otherwise, rfl, hcondition.2, helse.2⟩ hrest

/-- **The params of a command** are written as its form asks, or it stands for a tier. -/
theorem follows_params {key : String} {signature : Signature}
    (hkey : line.registry.signature? key = some signature) (hts : R.tokens ts ts') :
    R.Follows size 0
      (R.signedParams fun signed ps => ∃ key, line.registry.signature? key = some signed ∧
        (signed.Written line.registry line.number ps ∨
          Signature.Redirected line.registry key ps)) ts
      (line.params nested signature ts) (line'.params nested' signature ts') := by
  have hskip := skipColon hts
  -- all forms but those with targets keep the signature
  have hsame : ∀ {least : Nat} {ts : Tokens} {r r' : Except Fault (List Param × Tokens)},
      R.Follows size least (R.listed (signature.Written line.registry line.number)) ts r r' →
      R.Follows size 0
        (R.signedParams fun signed ps => ∃ key, line.registry.signature? key = some signed ∧
          (signed.Written line.registry line.number ps ∨
            Signature.Redirected line.registry key ps)) ts
        (r >>= fun read => pure ((signature, read.1), read.2))
        (r' >>= fun read => pure ((signature, read.1), read.2)) := fun hread =>
    hread.any.andThen fun hps hrest => .done ⟨rfl, hps.1, key, hkey, .inl hps.2⟩ hrest
  obtain ⟨name, kinds, returns, form⟩ := signature
  cases form with
  | standard | goTo => exact hsame (follows_standardParams hn _ kinds hts)
  | set => exact hsame ((follows_setParams hn hskip).skip ':')
  | unset => exact hsame ((follows_unsetParams hskip).skip ':')
  | call => exact hsame ((follows_callParams hn hskip).skip ':')
  | conditional => exact hsame ((follows_conditionalParams hn hskip).skip ':')
  | setFor | unsetFor =>
    refine ((follows_targetParams hn _ _ hskip).skip ':').mono fun read read' h => ?_
    obtain ⟨hsigned, hps, hshape⟩ := h
    refine ⟨hsigned, hps, ?_⟩
    obtain ⟨signed, params⟩ := read
    rcases hshape with ⟨rfl, htargets⟩ | ⟨tier, htier, hredirected⟩
    · exact ⟨key, hkey, .inl htargets⟩
    · exact ⟨tier, htier, .inr hredirected⟩

omit hn in
/-- Params of the same number are accepted in both, or in neither. -/
theorem gives_ofParams (signature : Signature) {params params' : List Param}
    (h : params.length = params'.length) :
    R.Gives (fun c c' => c = ⟨signature.name, params, line.number⟩ ∧
        c' = ⟨signature.name, params', line'.number⟩ ∧ params.length = signature.params.length)
      (Command.ofParams signature params line.number)
      (Command.ofParams signature params' line'.number) := by
  unfold Command.ofParams
  rw [← h]
  split
  · next hlength => exact .ok ⟨rfl, rfl, hlength⟩
  · exact .fault R rfl

/-- **A command may have one token more** than its slots, for its name comes first. -/
theorem follows_commandOver (hts : R.tokens ts ts') :
    R.Follows (size + 1) 1 R.command ts (line.commandOver nested ts)
      (line'.commandOver nested' ts') := by
  refine (follows_word _ hts).andThen_of (Nat.le_refl _) fun hword hrest _ => ?_
  obtain ⟨rfl, -⟩ := hword
  refine .ofGives (gives_lookUp _) fun hlookUp hsignature => ?_
  subst hsignature
  refine (follows_params hn (signature?_of_lookUp hlookUp) hrest).andThen
    fun {read read' _ _} hread hrest => ?_
  obtain ⟨signed, params⟩ := read
  obtain ⟨signed', params'⟩ := read'
  obtain ⟨rfl, hparams, key, hkey, hwritten⟩ := hread
  refine .ofGives (gives_ofParams _ hparams.length_eq) fun _ hc => ?_
  obtain ⟨rfl, rfl, hlength⟩ := hc
  exact .done (R.relates.params rfl rfl rfl ⟨key, _, hkey, rfl, hlength, hwritten⟩ hparams) hrest

/-! ### Primaries -/

theorem follows_wordPrimary {word : String} (hword : R.words word) {t t' : Token}
    {rest rest' : Tokens} (hts : R.tokens (t :: rest) (t' :: rest')) (hrest : R.tokens rest rest') :
    R.Follows (size + 1) 1 R.operand (t :: rest) (line.wordPrimary nested word (t :: rest) rest)
      (line'.wordPrimary nested' word (t' :: rest') rest') := by
  have hvalue : ∀ {o : Operand}, R.operand o o →
      R.Follows (size + 1) 1 R.operand (t :: rest) (.ok (o, rest)) (.ok (o, rest')) := fun h =>
    (Follows.done h hrest).cons
  have hkind : StaticKind.ofCommand line'.registry word =
      StaticKind.ofCommand line.registry word := by
    unfold StaticKind.ofCommand
    rw [R.signature?_eq hword]
  unfold wordPrimary
  rw [hasCommand_eq hword, hkind]
  split
  · exact hvalue ⟨R.relates.literal nofun, rfl⟩
  · exact hvalue ⟨R.relates.literal nofun, rfl⟩
  · exact hvalue ⟨R.relates.loopIndex, rfl⟩
  · exact hvalue ⟨R.relates.loopObject, rfl⟩
  · split
    · exact (follows_commandOver hn hts).andThen fun hc hrest =>
        .done ⟨R.relates.command hc, rfl⟩ hrest
    · next hcommand =>
      split
      · exact .fault rfl
      · next hreserved =>
        exact hvalue ⟨R.relates.name ⟨by simpa using hreserved, by simpa using hcommand⟩, rfl⟩

/-- **A primary may have one token more** than what it encloses. One case for each kind of token it
starts with. -/
theorem follows_primaryOver (hts : R.tokens ts ts') :
    R.Follows (size + 1) 1 R.operand ts (line.primaryOver nested ts)
      (line'.primaryOver nested' ts') := by
  cases R.next hts with
  | ends hends =>
    -- no value starts at the end, so both find fault
    have hfault : line'.primaryOver nested' ts' = .error (line'.expected "a value" ts') := by
      obtain rfl | ⟨⟨kind, start, stop⟩, rest, rfl, ht⟩ := hends
      · rfl
      · cases ht
        rfl
    rw [hfault]
    exact .expected _ hts
  | @cons t t' rest rest' hkind hword _ htouches hrest =>
    have hvalue : ∀ {o : Operand}, R.operand o o →
        R.Follows (size + 1) 1 R.operand (t :: rest) (.ok (o, rest)) (.ok (o, rest')) := fun h =>
      (Follows.done h hrest).cons
    unfold primaryOver
    dsimp only
    rw [hkind]
    split
    · refine Follows.cons ((follows_valueSlot hn.primary hrest).any.andThen
        fun {inner inner' ts ts'} hinner hts => ?_)
      dsimp only
      rw [R.relates.kind_eq hinner]
      cases hclosed : ts.eat? (·.isSymbol ')') with
      | none =>
        intro _
        refine .error (.of_fault line ts rfl) fun hs => ?_
        rw [R.tokens_eq hs hts, hclosed, R.line_eq hs]
        rfl
      | some rest =>
        obtain ⟨u, rfl⟩ := Tokens.cons_of_eat? hclosed
        obtain ⟨rest', hclosed', hrest⟩ := eat?_of_some hts hclosed
        rw [hclosed']
        exact (Follows.done ⟨hinner, rfl⟩ hrest).tail
    · refine Follows.cons ((follows_collectionLiteral hn.primary .any hrest).any.andThen
        fun hliteral hrest => ?_)
      exact .done ⟨hliteral.1, rfl⟩ hrest
    · rcases negativeLiteral?_alike htouches hrest with
        ⟨hr, hr'⟩ | ⟨u, rest, rest', x, x', rfl, hr, hr', rfl, hrest⟩
      · rw [hr, hr']
        exact .expected _ hts
      · rw [hr, hr']
        exact (Follows.done ⟨R.relates.literal nofun, rfl⟩ hrest).first.first
    · exact .expected _ hts
    · exact hvalue ⟨R.relates.literal nofun, rfl⟩
    · exact hvalue ⟨R.relates.literal nofun, rfl⟩
    · next word hkind => exact follows_wordPrimary hn (hword word hkind) hts hrest

/-- **A level above one that is followed by another may read one token more.** -/
theorem follows_succ :
    Level.FollowedBy R (size + 1) ⟨line.commandOver nested, line.primaryOver nested⟩
      ⟨line'.commandOver nested', line'.primaryOver nested'⟩ :=
  ⟨follows_commandOver hn, follows_primaryOver hn⟩

end Nested

/-! ### Levels -/

/-- **Every level is followed by those that are no less deep**, whatever the number of tokens; if
the same faults are to be found, by those of the same depth. -/
theorem follows_level (R : Correspondence line line') {n m : Nat} (h : n ≤ m)
    (hsame : R.SameFaults → n = m) (size : Nat) :
    (line.level n).FollowedBy R size (line'.level m) := by
  induction n generalizing m with
  | zero =>
    have hlowest : ∀ {α : Type} {V : α → α → Prop} {ts ts' : Tokens} {what : String}
        {r' : Except Fault (α × Tokens)}, R.tokens ts ts' →
        (0 = m → r' = .error (line'.expected what ts')) →
        R.Follows size 1 V ts (.error (line.expected what ts)) r' := by
      intro α V ts ts' what r' hts hr' _
      refine .error (.of_expected line what ts) fun hs => ?_
      rw [hr' (hsame hs), R.line_eq hs, R.tokens_eq hs hts]
    refine ⟨fun hts => hlowest hts ?_, fun hts => hlowest hts ?_⟩
    · rintro rfl
      rfl
    · rintro rfl
      rfl
  | succ n ih =>
    obtain ⟨m, rfl⟩ : ∃ k, m = k + 1 := ⟨m - 1, by omega⟩
    have hn := ih (m := m) (by omega) fun hs => Nat.succ.inj (hsame hs)
    exact (follows_succ hn).narrow (Nat.le_succ _)

end Correspondence

end StageScript
