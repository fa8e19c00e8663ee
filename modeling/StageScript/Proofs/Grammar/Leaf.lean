import StageScript.Proofs.Grammar.Slots
import StageScript.Proofs.Token.Written

/-!
# Commands with literal params

A command that holds no other command and no expression: all its params are literals, labels, names
of variables and bindings of such names to literals. Its text is read as the command with these
params, at the end of a line as well as in front of the `ELSE` of an `IF` around it
(`Leaf.command_eq`). A colon that belongs to this `ELSE` is left where it is, also by a call, which
looks behind the colon for `WITH`.
-/

namespace StageScript

open Token

variable {registry : Registry}

/-! ### Names -/

/-- The name of a variable, as one word of a line. -/
structure VariableName (registry : Registry) where
  name : String
  isWord : IsWord name.toList
  isFree : registry.IsFree name
  ne_negation : name ≠ "NOT-"

/-- A label, as one word of a line. -/
structure LabelName where
  name : String
  isWord : IsWord name.toList
  isAllowed : name = startLabel ∨ isReserved name = false

/-- The token of a word. -/
def SpellsWord (word : String) (ts : Tokens) : Prop := ∃ a b, ts = [⟨.word word, a, b⟩]

/-! ### Slots -/

/-- What is written in a slot. -/
inductive Argument (registry : Registry) where
  | literal (w : Written)
  | label (l : LabelName)
  | name (n : VariableName registry)

namespace Argument

def text : Argument registry → List Char
  | .literal w => w.text
  | .label l => l.name.toList
  | .name n => n.name.toList

/-- Whether a slot of the kind is written so. -/
def Fits : Argument registry → ParamKind → Prop
  | .literal _, .any | .literal _, .number | .literal _, .text | .literal _, .boolean
  | .literal _, .collection _ | .label _, .label | .name _, .name => True
  | _, _ => False

/-- What a slot of the kind holds. -/
def param : Argument registry → ParamKind → Param
  | .literal w, .boolean => .condition .identity (.ofLiteral w.value) none
  | .literal w, .collection element => .collectionOf element w.value
  | .literal w, _ => .ofLiteral w.value
  | .label l, _ => .ofText l.name
  | .name n, _ => .ofText n.name

/-- The tokens of the slot. -/
def Spells : Argument registry → Tokens → Prop
  | .literal w, ts => Literal ts w.value
  | .label l, ts => SpellsWord l.name ts
  | .name n, ts => SpellsWord n.name ts

theorem isRead : ∀ a : Argument registry, IsRead a.text a.Spells
  | .literal w => w.isRead
  | .label l => isRead_word l.isWord
  | .name n => isRead_word n.isWord

end Argument

/-- The slots that are written are those of a signature. -/
def FitsAll : List ParamKind → List (Argument registry) → Prop
  | [], as => as = []
  | .line :: kinds, as => FitsAll kinds as
  | _ :: _, [] => False
  | kind :: kinds, a :: as => a.Fits kind ∧ FitsAll kinds as

/-- The params of the slots; the number of the line is not written. -/
def paramsOf (number : Nat) : List ParamKind → List (Argument registry) → List Param
  | .line :: kinds, as => .ofLine number :: paramsOf number kinds as
  | kind :: kinds, a :: as => a.param kind :: paramsOf number kinds as
  | _, _ => []

/-! ### Commands -/

/-- What stands behind the name of a command. -/
inductive Body (registry : Registry) where
  | slots (arguments : List (Argument registry))
  | call (label : LabelName) (bindings : List (VariableName registry × Written))
  | set (name : VariableName registry) (value : Written)
  | unset (name : VariableName registry)
  | setFor (targets : Written) (name : VariableName registry) (value : Written)
  | unsetFor (targets : Written) (name : VariableName registry)

/-- A slot with the colon before it. -/
def slotText (text rest : List Char) : List Char := ':' :: ' ' :: (text ++ rest)

/-- What stands behind the name in `NAME = value`. -/
def valueText (value : Written) : List Char := ' ' :: '=' :: ' ' :: value.text

/-- `NAME = value` with the colon before it. -/
def assignmentText (name : VariableName registry) (value : Written) : List Char :=
  slotText name.name.toList (valueText value)

/-- The bindings of a call behind the first, with the closing bracket. -/
def bindingsText : List (VariableName registry × Written) → List Char
  | [] => [']']
  | (name, value) :: bindings =>
    ',' :: ' ' :: (name.name.toList ++ valueText value ++ bindingsText bindings)

/-- The bindings of a call; without bindings there is no `WITH`. -/
def withText : List (VariableName registry × Written) → List Char
  | [] => []
  | (name, value) :: bindings =>
    ' ' :: ("WITH".toList ++
      ' ' :: '[' :: (name.name.toList ++ valueText value ++ bindingsText bindings))

namespace Body

def text : Body registry → List Char
  | .slots arguments => arguments.foldr (fun a rest => slotText a.text rest) []
  | .call label bindings => slotText label.name.toList (withText bindings)
  | .set name value => assignmentText name value
  | .unset name => slotText name.name.toList []
  | .setFor targets name value => slotText targets.text (assignmentText name value)
  | .unsetFor targets name => slotText targets.text (slotText name.name.toList [])

/-- Whether commands of the signature are written so. -/
def Fits (signature : Signature) : Body registry → Prop
  | .slots arguments =>
    (signature.form = .standard ∨ signature.form = .goTo) ∧ FitsAll signature.params arguments
  | .call _ _ => signature.form = .call ∧ signature.params.length = 3
  | .set _ _ => signature.form = .set ∧ signature.params.length = 2
  | .unset _ => signature.form = .unset ∧ signature.params.length = 1
  | .setFor _ _ _ => signature.form = .setFor ∧ signature.params.length = 3
  | .unsetFor _ _ => signature.form = .unsetFor ∧ signature.params.length = 2

/-- The params of the command. -/
def params (signature : Signature) (number : Nat) : Body registry → List Param
  | .slots arguments => paramsOf number signature.params arguments
  | .call label bindings =>
    [.ofText label.name, .bindings (bindings.map fun b => (b.1.name, .ofLiteral b.2.value)),
      .ofLine number]
  | .set name value => [.ofText name.name, .ofLiteral value.value]
  | .unset name => [.ofText name.name]
  | .setFor targets name value =>
    [.collectionOf .character targets.value, .ofText name.name, .ofLiteral value.value]
  | .unsetFor targets name => [.collectionOf .character targets.value, .ofText name.name]

end Body

/-- **A command of the registry with literal params.** -/
structure Leaf (registry : Registry) where
  signature : Signature
  registered : registry.signature? signature.name = some signature
  isWord : IsWord signature.name.toList
  body : Body registry
  fits : body.Fits signature

namespace Leaf

def text (leaf : Leaf registry) : List Char := leaf.signature.name.toList ++ leaf.body.text

/-- What the command is read as on a line. -/
def command (leaf : Leaf registry) (number : Nat) : Command :=
  ⟨leaf.signature.name, leaf.body.params leaf.signature number, number⟩

end Leaf

/-! ### Tokens -/

/-- Tokens behind a colon. -/
def BehindColon (P : Tokens → Prop) (ts : Tokens) : Prop :=
  ∃ a b us, ts = ⟨.symbol ':', a, b⟩ :: us ∧ P us

/-- Tokens of a slot behind a colon, and others behind them. -/
def SpellsSlot (P Q : Tokens → Prop) : Tokens → Prop :=
  BehindColon fun ts => ∃ us vs, ts = us ++ vs ∧ P us ∧ Q vs

theorem isRead_slotText {text rest : List Char} {P Q : Tokens → Prop} (h : IsRead text P)
    (hrest : IsRead rest Q) (hends : Ends rest) :
    IsRead (slotText text rest) (SpellsSlot P Q) :=
  (h.append hrest hends).colon

theorem ends_slotText (text rest : List Char) : Ends (slotText text rest) := .cons (by decide) _

/-- The tokens behind the name in `NAME = value`. -/
def SpellsValue (value : Written) (ts : Tokens) : Prop :=
  ∃ a b us, ts = ⟨.symbol '=', a, b⟩ :: us ∧ Literal us value.value

theorem isRead_valueText (value : Written) : IsRead (valueText value) (SpellsValue value) :=
  (value.isRead.blank.symbol (by decide)).blank

theorem ends_valueText (value : Written) : Ends (valueText value) := .cons (by decide) _

/-- The tokens of `NAME = value` behind a colon. -/
def SpellsAssignment (name : VariableName registry) (value : Written) : Tokens → Prop :=
  SpellsSlot (SpellsWord name.name) (SpellsValue value)

theorem isRead_assignmentText (name : VariableName registry) (value : Written) :
    IsRead (assignmentText name value) (SpellsAssignment name value) :=
  isRead_slotText (isRead_word name.isWord) (isRead_valueText value) (ends_valueText value)

/-- The tokens of one binding of a call. -/
def SpellsBinding (name : VariableName registry) (value : Written) (ts : Tokens) : Prop :=
  ∃ us vs, ts = us ++ vs ∧ SpellsWord name.name us ∧ SpellsValue value vs

theorem isRead_binding (name : VariableName registry) (value : Written) :
    IsRead (name.name.toList ++ valueText value) (SpellsBinding name value) :=
  (isRead_word name.isWord).append (isRead_valueText value) (ends_valueText value)

/-- The tokens of the bindings behind the first. -/
def SpellsBindings : List (VariableName registry × Written) → Tokens → Prop
  | [], ts => ∃ a b, ts = [⟨.symbol ']', a, b⟩]
  | (name, value) :: bindings, ts => ∃ a b us vs,
    ts = ⟨.symbol ',', a, b⟩ :: (us ++ vs) ∧ SpellsBinding name value us ∧
      SpellsBindings bindings vs

theorem ends_bindingsText (bindings : List (VariableName registry × Written)) :
    Ends (bindingsText bindings) := by
  cases bindings with
  | nil => exact .cons (by decide) _
  | cons => exact .cons (by decide) _

theorem isRead_bindingsText (bindings : List (VariableName registry × Written)) :
    IsRead (bindingsText bindings) (SpellsBindings bindings) := by
  induction bindings with
  | nil => exact Written.isRead_close
  | cons binding bindings ih =>
    obtain ⟨name, value⟩ := binding
    have hread := (isRead_binding name value).append ih (ends_bindingsText bindings)
    refine (hread.blank.symbol (by decide)).mono ?_
    rintro ts ⟨a, b, _, rfl, us, vs, rfl, hus, hvs⟩
    exact ⟨a, b, us, vs, rfl, hus, hvs⟩

/-- The tokens of the bindings of a call. -/
def SpellsWith : List (VariableName registry × Written) → Tokens → Prop
  | [], ts => ts = []
  | (name, value) :: bindings, ts => ∃ a b c d us vs,
    ts = ⟨.word "WITH", a, b⟩ :: ⟨.symbol '[', c, d⟩ :: (us ++ vs) ∧ SpellsBinding name value us ∧
      SpellsBindings bindings vs

theorem isRead_withText (bindings : List (VariableName registry × Written)) :
    IsRead (withText bindings) (SpellsWith bindings) := by
  cases bindings with
  | nil => exact IsRead.nil rfl
  | cons binding bindings =>
    obtain ⟨name, value⟩ := binding
    have hword : IsWord "WITH".toList := by decide +kernel
    have hlist := (isRead_binding name value).append (isRead_bindingsText bindings)
      (ends_bindingsText bindings)
    have hread := (isRead_word hword).append (hlist.symbol (c := '[') (by decide)).blank
      (.cons (by decide) _)
    refine hread.blank.mono ?_
    rintro ts ⟨_, _, rfl, ⟨a, b, rfl⟩, c, d, _, rfl, us, vs, rfl, hus, hvs⟩
    exact ⟨a, b, c, d, us, vs, rfl, hus, hvs⟩

theorem ends_withText (bindings : List (VariableName registry × Written)) :
    Ends (withText bindings) := by
  cases bindings with
  | nil => exact .nil
  | cons => exact .cons (by decide) _

namespace Body

/-- The tokens behind the name of the command. -/
def Spells : Body registry → Tokens → Prop
  | .slots arguments => arguments.foldr (fun a P => SpellsSlot a.Spells P) (· = [])
  | .call label bindings => SpellsSlot (SpellsWord label.name) (SpellsWith bindings)
  | .set name value => SpellsAssignment name value
  | .unset name => SpellsSlot (SpellsWord name.name) (· = [])
  | .setFor targets name value =>
    SpellsSlot (Literal · targets.value) (SpellsAssignment name value)
  | .unsetFor targets name =>
    SpellsSlot (Literal · targets.value)
      (SpellsSlot (SpellsWord name.name) (· = []))

theorem ends_text (body : Body registry) : Ends body.text := by
  cases body with
  | slots arguments =>
    cases arguments with
    | nil => exact .nil
    | cons => exact ends_slotText _ _
  | call | set | unset | setFor | unsetFor => exact ends_slotText _ _

theorem isRead (body : Body registry) : IsRead body.text body.Spells := by
  have hnil : IsRead [] (· = []) := IsRead.nil rfl
  have hend : Ends [] := .nil
  cases body with
  | slots arguments =>
    induction arguments with
    | nil => exact hnil
    | cons a arguments ih => exact isRead_slotText a.isRead ih (ends_text (.slots arguments))
  | call label bindings =>
    exact isRead_slotText (isRead_word label.isWord) (isRead_withText bindings)
      (ends_withText bindings)
  | set name value => exact isRead_assignmentText name value
  | unset name => exact isRead_slotText (isRead_word name.isWord) hnil hend
  | setFor targets name value =>
    exact isRead_slotText targets.isRead (isRead_assignmentText name value) (ends_slotText _ _)
  | unsetFor targets name =>
    exact isRead_slotText targets.isRead (isRead_slotText (isRead_word name.isWord) hnil hend)
      (ends_slotText _ _)

end Body

namespace Leaf

/-- The tokens of the command. -/
def Spells (leaf : Leaf registry) (ts : Tokens) : Prop :=
  ∃ a b us, ts = ⟨.word leaf.signature.name, a, b⟩ :: us ∧ leaf.body.Spells us

theorem isRead (leaf : Leaf registry) : IsRead leaf.text leaf.Spells := by
  refine ((isRead_word leaf.isWord).append leaf.body.isRead leaf.body.ends_text).mono ?_
  rintro ts ⟨_, us, rfl, ⟨a, b, rfl⟩, hus⟩
  exact ⟨a, b, us, rfl, hus⟩

end Leaf

/-! ### Reading slots -/

/-- The `ELSE` of an `IF`, with the colon before it. -/
def StartsElse (ts : Tokens) : Prop :=
  ∃ a b c d us, ts = ⟨.symbol ':', a, b⟩ :: ⟨.word "ELSE", c, d⟩ :: us

/-- **What stands behind a command**: nothing, or the `ELSE` of an `IF` around it. -/
def EndsCommand (ts : Tokens) : Prop := ts = [] ∨ StartsElse ts

theorem EndsCommand.atParamEnd {ts : Tokens} (h : EndsCommand ts) : ts.atParamEnd = true := by
  rcases h with rfl | ⟨a, b, c, d, us, rfl⟩ <;> rfl

theorem BehindColon.atParamEnd {P : Tokens → Prop} {ts : Tokens} (h : BehindColon P ts)
    (rest : Tokens) : Tokens.atParamEnd (ts ++ rest) = true := by
  obtain ⟨a, b, us, rfl, -⟩ := h
  rfl

theorem fitsAll_cons {kind : ParamKind} {kinds : List ParamKind}
    {arguments : List (Argument registry)} (hkind : kind ≠ .line)
    (h : FitsAll (kind :: kinds) arguments) :
    ∃ a others, arguments = a :: others ∧ a.Fits kind ∧ FitsAll kinds others := by
  cases arguments with
  | nil => cases kind <;> first | exact absurd rfl hkind | exact h.elim
  | cons a others =>
    refine ⟨a, others, rfl, ?_⟩
    cases kind <;> first | exact absurd rfl hkind | exact h

theorem paramsOf_cons {kind : ParamKind} (hkind : kind ≠ .line) (kinds : List ParamKind)
    (a : Argument registry) (others : List (Argument registry)) (number : Nat) :
    paramsOf number (kind :: kinds) (a :: others) =
      a.param kind :: paramsOf number kinds others := by
  cases kind <;> first | exact absurd rfl hkind | rfl

theorem length_paramsOf {kinds : List ParamKind} {arguments : List (Argument registry)}
    (h : FitsAll kinds arguments) (number : Nat) :
    (paramsOf number kinds arguments).length = kinds.length := by
  induction kinds generalizing arguments with
  | nil => rfl
  | cons kind kinds ih =>
    by_cases hkind : kind = .line
    · subst hkind
      exact congrArg (· + 1) (ih h)
    · obtain ⟨a, others, rfl, -, hothers⟩ := fitsAll_cons hkind h
      rw [paramsOf_cons hkind]
      exact congrArg (· + 1) (ih hothers)

theorem Body.length_params {body : Body registry} {signature : Signature}
    (h : body.Fits signature) (number : Nat) :
    (body.params signature number).length = signature.params.length := by
  cases body with
  | slots arguments => exact length_paramsOf h.2 number
  | call | set | unset | setFor | unsetFor => exact h.2.symm

section Reading

variable {line : Line} {ts rest : Tokens}

theorem variableName_of_word (name : VariableName line.registry) (a b : Nat) :
    line.variableName (⟨.word name.name, a, b⟩ :: ts) = .ok (name.name, ts) := by
  obtain ⟨hreserved, hcommand⟩ := name.isFree
  unfold Line.variableName Line.word
  simp [hreserved, hcommand, bind, Except.bind, pure, Except.pure]

namespace Argument

theorem atParamEnd {a : Argument registry} (h : a.Spells ts) (rest : Tokens) :
    Tokens.atParamEnd (ts ++ rest) = false := by
  cases a with
  | literal w => exact Literal.atParamEnd h rest
  | label | name =>
    obtain ⟨a, b, rfl⟩ := h
    rfl

/-- A slot is read up to its end. -/
theorem slot_eq {a : Argument line.registry} {kind : ParamKind} (hfits : a.Fits kind)
    (hts : a.Spells ts) (hrest : rest.atParamEnd = true) {m : Nat} (hlevel : ts.length ≤ m) :
    line.slot (line.level m) kind (ts ++ rest) = .ok (a.param kind, rest) := by
  cases a with
  | literal w =>
    have hprimary := Literal.primary_eq line hts m rest hlevel
    have hnot := (Literal.opens hts rest).1
    cases kind with
    | any | number | text => exact Line.valueSlot_of_primary hnot hprimary hrest
    | boolean =>
      exact Line.conditionSlot_of_primary hnot hprimary (Param.isCondition_ofLiteral w.value) hrest
    | collection element =>
      have hoperand := Literal.collectionOperand_eq line hts element hlevel rest
      exact Line.collectionSlot_of_operand hoperand hrest
    | command | label | name | bindings | line => exact hfits.elim
  | label l =>
    obtain ⟨a, b, rfl⟩ := hts
    cases kind with
    | label =>
      show (line.labelName (⟨.word l.name, a, b⟩ :: rest) >>= _) = _
      rw [Line.labelName_of_word l.isAllowed]
      rfl
    | _ => exact hfits.elim
  | name n =>
    obtain ⟨a, b, rfl⟩ := hts
    cases kind with
    | name =>
      show (line.variableName (⟨.word n.name, a, b⟩ :: rest) >>= _) = _
      rw [variableName_of_word]
      rfl
    | _ => exact hfits.elim

end Argument

/-- **The slots are read one after the other**, by induction on the kinds of the signature. -/
theorem standardParams_eq (signature : Signature) {kinds : List ParamKind}
    {arguments : List (Argument line.registry)} (hfits : FitsAll kinds arguments)
    (hts : (Body.slots arguments).Spells ts) (hrest : rest.atParamEnd = true) {m : Nat}
    (hlevel : ts.length ≤ m) :
    line.standardParams (line.level m) signature kinds (ts ++ rest) =
      .ok (paramsOf line.number kinds arguments, rest) := by
  induction kinds generalizing arguments ts with
  | nil =>
    cases (hfits : arguments = [])
    cases (hts : ts = [])
    rfl
  | cons kind kinds ih =>
    by_cases hkind : kind = .line
    · subst hkind
      unfold Line.standardParams
      rw [ih hfits hts hlevel]
      rfl
    · obtain ⟨a, others, rfl, ha, hothers⟩ := fitsAll_cons hkind hfits
      obtain ⟨x, y, _, rfl, us, vs, rfl, hus, hvs⟩ := hts
      have hvs : (Body.slots others).Spells vs := hvs
      simp only [List.length_cons, List.length_append] at hlevel
      have hend : Tokens.atParamEnd (vs ++ rest) = true := by
        cases others with
        | nil =>
          cases (hvs : vs = [])
          exact hrest
        | cons => exact BehindColon.atParamEnd hvs rest
      rw [paramsOf_cons hkind, List.cons_append, List.append_assoc]
      exact Line.standardParams_cons hkind (Argument.atParamEnd hus _)
        (Argument.slot_eq ha hus hend (by omega)) (ih hothers hvs (by omega))

/-! ### Reading commands -/

/-- A binding is read up to a separator or the closing bracket. -/
theorem binding_eq {name : VariableName line.registry} {value : Written}
    (hts : SpellsBinding name value ts) {t : Token} (ht : goesOn t.kind = false) {m : Nat}
    (hlevel : ts.length ≤ m) (rest : Tokens) :
    line.binding (line.level m) (ts ++ t :: rest) =
      .ok ((name.name, .ofLiteral value.value), t :: rest) := by
  obtain ⟨_, _, rfl, ⟨a, b, rfl⟩, c, d, us, rfl, hus⟩ := hts
  simp only [List.length_append, List.length_cons] at hlevel
  have hprimary := Literal.primary_eq line hus m (t :: rest) (by omega)
  have hvalue := comparisons_of_literal line hus hprimary ht
  show line.binding _ (⟨.word name.name, a, b⟩ :: ⟨.symbol '=', c, d⟩ :: (us ++ t :: rest)) = _
  unfold Line.binding
  rw [variableName_of_word]
  show (line.comparisons (line.level m).primary (us ++ t :: rest) >>= _) = _
  rw [hvalue]
  rfl

/-- The bindings are read one after the other, by induction on those behind the first. -/
theorem bindings_eq {name : VariableName line.registry} {value : Written}
    {bindings : List (VariableName line.registry × Written)} {us vs : Tokens}
    (hus : SpellsBinding name value us) (hvs : SpellsBindings bindings vs) {m budget : Nat}
    (hlevel : us.length + vs.length ≤ m) (hbudget : us.length + vs.length ≤ budget)
    (rest : Tokens) :
    separated line .unterminatedBindings (line.binding (line.level m)) budget
        (us ++ (vs ++ rest)) =
      .ok (((name, value) :: bindings).map fun b => (b.1.name, .ofLiteral b.2.value), rest) := by
  induction bindings generalizing name value us vs budget with
  | nil =>
    obtain ⟨a, b, rfl⟩ := hvs
    exact separated_last (binding_eq hus (t := ⟨.symbol ']', a, b⟩) rfl (by omega) rest) rfl budget
  | cons binding bindings ih =>
    obtain ⟨a, b, us', vs', rfl, hus', hvs'⟩ := hvs
    simp only [List.length_cons, List.length_append] at hlevel hbudget
    obtain ⟨budget, rfl⟩ : ∃ k, budget = k + 1 := ⟨budget - 1, by omega⟩
    have hlength : us.length ≤ m := by omega
    have hread := binding_eq hus (t := ⟨.symbol ',', a, b⟩) rfl hlength (us' ++ (vs' ++ rest))
    have hbudget' : us'.length + vs'.length ≤ budget := by omega
    have hothers := ih hus' hvs' (by omega) hbudget'
    rw [List.cons_append, List.append_assoc]
    exact separated_cons hread rfl hothers

/-- The bindings of a call are read as they are written; behind a call without bindings no `WITH`
is found. -/
theorem withList_eq {bindings : List (VariableName line.registry × Written)}
    (hts : SpellsWith bindings ts) (hrest : EndsCommand rest) {m : Nat} (hlevel : ts.length ≤ m) :
    line.withList (line.level m) (ts ++ rest) =
      .ok (.bindings (bindings.map fun b => (b.1.name, .ofLiteral b.2.value)), rest) := by
  cases bindings with
  | nil =>
    cases (hts : ts = [])
    rcases hrest with rfl | ⟨a, b, c, d, us, rfl⟩ <;> rfl
  | cons binding bindings =>
    obtain ⟨a, b, c, d, us, vs, rfl, hus, hvs⟩ := hts
    simp only [List.length_cons, List.length_append] at hlevel
    have hlength : us.length + vs.length ≤ (us ++ (vs ++ rest)).length := by
      simp only [List.length_append]
      omega
    have hread := bindings_eq hus hvs (m := m) (by omega) hlength rest
    have hopen : Tokens.eat? (·.isSymbol '[') (⟨.symbol '[', c, d⟩ :: (us ++ (vs ++ rest))) =
        some (us ++ (vs ++ rest)) := rfl
    have hnonempty : Tokens.eat? (·.isSymbol ']') (us ++ (vs ++ rest)) = none := by
      obtain ⟨_, _, rfl, ⟨x, y, rfl⟩, -⟩ := hus
      rfl
    show line.bindingList (line.level m) (⟨.symbol '[', c, d⟩ :: (us ++ vs ++ rest)) = _
    rw [List.append_assoc]
    unfold Line.bindingList
    simp only [hopen, hnonempty, hread, bind, Except.bind]
    rfl

theorem setParams_eq {name : VariableName line.registry} {value : Written}
    (hts : SpellsAssignment name value ts) (hrest : rest.atParamEnd = true) {m : Nat}
    (hlevel : ts.length ≤ m) :
    line.setParams (line.level m) ((ts ++ rest).skipSymbol ':') =
      .ok ([.ofText name.name, .ofLiteral value.value], rest) := by
  obtain ⟨_, _, _, rfl, _, _, rfl, ⟨a, b, rfl⟩, c, d, us, rfl, hus⟩ := hts
  simp only [List.length_cons, List.length_append] at hlevel
  have hprimary := Literal.primary_eq line hus m rest (by omega)
  have hvalue : line.valueSlot (line.level m).primary (us ++ rest) =
      .ok (.ofLiteral value.value, rest) :=
    Line.valueSlot_of_primary (Literal.opens hus rest).1 hprimary hrest
  show line.setParams _ (⟨.word name.name, a, b⟩ :: ⟨.symbol '=', c, d⟩ :: (us ++ rest)) = _
  unfold Line.setParams Line.assignment
  rw [variableName_of_word]
  show (line.valueSlot (line.level m).primary (us ++ rest) >>= _ >>= _) = _
  rw [hvalue]
  rfl

theorem unsetParams_eq {name : VariableName line.registry}
    (hts : SpellsSlot (SpellsWord name.name) (· = []) ts) (rest : Tokens) :
    line.unsetParams ((ts ++ rest).skipSymbol ':') = .ok ([.ofText name.name], rest) := by
  obtain ⟨_, _, _, rfl, _, _, rfl, ⟨a, b, rfl⟩, rfl⟩ := hts
  show line.unsetParams (⟨.word name.name, a, b⟩ :: rest) = _
  unfold Line.unsetParams
  rw [variableName_of_word]
  rfl

theorem Literal.tierWord? {lit : Tokens} {v : Value} (h : Literal lit v) (rest : Tokens) :
    Line.tierWord? (lit ++ rest) = none := by
  cases h <;> rfl

/-- The targets of a command, and what is read behind them. -/
theorem targetParams_eq {signature : Signature} {setting : Bool} {targets : Written}
    {P : Tokens → Prop} (hts : SpellsSlot (Literal · targets.value) (BehindColon P) ts)
    {ps : List Param} {m : Nat} (hlevel : ts.length ≤ m)
    (hread : ∀ vs, BehindColon P vs → vs.length ≤ m →
      (if setting then line.setParams (line.level m) else line.unsetParams)
        ((vs ++ rest).skipSymbol ':') = .ok (ps, rest)) :
    line.targetParams (line.level m) signature setting ((ts ++ rest).skipSymbol ':') =
      .ok ((signature, .collectionOf .character targets.value :: ps), rest) := by
  obtain ⟨_, _, _, rfl, us, vs, rfl, hus, hvs⟩ := hts
  simp only [List.length_cons, List.length_append] at hlevel
  have htargets := Line.collectionSlot_of_operand
    (Literal.collectionOperand_eq line hus .character (n := m) (by omega) (vs ++ rest))
    (hvs.atParamEnd rest)
  rw [List.cons_append, List.append_assoc, Line.skipSymbol_colon]
  unfold Line.targetParams
  simp only [Literal.tierWord? hus, htargets, hread vs hvs (by omega), bind, Except.bind]
  rfl

/-- **The params of a command are read as they are written**, and what ends the command is left. -/
theorem Body.params_eq {body : Body line.registry} {signature : Signature}
    (hfits : body.Fits signature) (hts : body.Spells ts) (hrest : EndsCommand rest) {m : Nat}
    (hlevel : ts.length ≤ m) :
    line.params (line.level m) signature (ts ++ rest) =
      .ok ((signature, body.params signature line.number), rest) := by
  have hend := hrest.atParamEnd
  unfold Line.params
  cases body with
  | slots arguments =>
    have hslots := standardParams_eq signature hfits.2 hts hend hlevel
    rcases hfits.1 with hform | hform <;> rw [hform] <;> dsimp only <;> rw [hslots] <;> rfl
  | call label bindings =>
    obtain ⟨_, _, _, rfl, _, us, rfl, ⟨a, b, rfl⟩, hus⟩ := hts
    simp only [List.length_cons, List.length_append] at hlevel
    rw [hfits.1]
    show (line.callParams (line.level m) (⟨.word label.name, a, b⟩ :: (us ++ rest)) >>= _) = _
    unfold Line.callParams
    rw [Line.labelName_of_word label.isAllowed]
    show (line.withList (line.level m) (us ++ rest) >>= _ >>= _) = _
    rw [withList_eq hus hrest (by omega)]
    rfl
  | set name value =>
    rw [hfits.1]
    dsimp only
    rw [setParams_eq hts hend hlevel]
    rfl
  | unset name =>
    rw [hfits.1]
    dsimp only
    rw [unsetParams_eq hts rest]
    rfl
  | setFor targets name value =>
    rw [hfits.1]
    exact targetParams_eq hts hlevel fun vs hvs hlength => setParams_eq hvs hend hlength
  | unsetFor targets name =>
    rw [hfits.1]
    exact targetParams_eq hts hlevel fun vs hvs _ => unsetParams_eq hvs rest

end Reading

/-- **A command with literal params is read as it is written**, and what ends it is left. -/
theorem Leaf.command_eq {line : Line} {leaf : Leaf line.registry} {ts rest : Tokens}
    (hts : leaf.Spells ts) (hrest : EndsCommand rest) {m : Nat} (hlevel : ts.length ≤ m) :
    (line.level m).command (ts ++ rest) = .ok (leaf.command line.number, rest) := by
  obtain ⟨a, b, us, rfl, hus⟩ := hts
  rw [List.length_cons] at hlevel
  obtain ⟨m, rfl⟩ : ∃ k, m = k + 1 := ⟨m - 1, by omega⟩
  exact Line.commandOver_of_params leaf.registered
    (Body.params_eq leaf.fits hus hrest (Nat.le_of_succ_le_succ hlevel))
    (Body.length_params leaf.fits line.number) a b

end StageScript
