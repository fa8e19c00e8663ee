import StageScript.Proofs.Grammar.StaticKind
import StageScript.Proofs.Value.Typed

/-!
# What a slot for a collection yields

A slot for a collection holds operands that are joined by unions and differences: lists in brackets,
`[ALL]` among them, and single operands without brackets (`Param.InSlot`). The constraint of the
leftmost operand is that of the result, and it is enforced on all that is joined to it
(`Param.InSlot.evaluate_eq_ok`). A list is put under the element kind of the slot. So is a single
operand, unless it evaluates to a collection: that is taken as it is, under its own constraint.

So a slot yields only what its element kind accepts, or its leftmost operand is such a collection
and the result is under the constraint of that one (`slot_admits_or_ready`).
-/

namespace StageScript

/-! ### What is read in the slot -/

/-- **What is written in a slot for a collection.** -/
inductive Param.InSlot (element : ElementKind) : Param → Prop
  | listed (all : Bool) (items : List Param) : InSlot element (.collection element false all items)
  | bare (operand : Param) : InSlot element (bareCollection element operand)
  | union {left right : Param} (hleft : InSlot element left) (hright : InSlot element right) :
    InSlot element (.union left right)
  | difference {left right : Param} (hleft : InSlot element left)
    (hright : InSlot element right) : InSlot element (.difference left right)

/-- The leftmost operand of unions and differences. -/
def Param.firstOperand : Param → Param
  | .union left _ | .difference left _ => left.firstOperand
  | p => p

/-- The element kind under which a slot is read as a collection, if the form of the command reads it
as one: a slot of that kind where the slots stand one after the other, and the targets. -/
def Signature.collectionAt? (signature : Signature) (index : Nat) : Option ElementKind :=
  match signature.form with
  | .standard | .goTo =>
    match signature.params[index]? with
    | some (.collection element) => some element
    | _ => none
  | .setFor | .unsetFor => if index = 0 then some .character else none
  | .set | .unset | .call | .conditional => none

namespace Line

variable {line : Line} {primary : Tokens → Except Fault (Operand × Tokens)} {element : ElementKind}

theorem inSlot_collectionLiteral (ts : Tokens) :
    Reads (Param.InSlot element) (collectionLiteral line primary element ts) := by
  unfold collectionLiteral
  split
  · split
    · exact reads_ok (.listed true [])
    · exact reads_error _
  · split
    · exact reads_ok (.listed false [])
    · exact reads_bind fun items _ => reads_ok (.listed false items.1)

theorem inSlot_collectionOperand (ts : Tokens) :
    Reads (Param.InSlot element) (collectionOperand line primary element ts) := by
  unfold collectionOperand
  split
  · exact inSlot_collectionLiteral _
  · exact reads_bind fun operand _ => reads_ok (.bare operand.1.param)

/-- By induction on the chain, which joins each operand to those on its left. -/
theorem inSlot_collectionSlot (ts : Tokens) :
    Reads (Param.InSlot element) (collectionSlot line primary element ts) := by
  refine (inSlot_collectionOperand ts).bind fun left ts' hleft => ?_
  refine reads_chain (Q := Param.InSlot element) (fun left additive _ ts' _ hleft => ?_) _ hleft ts'
  refine (inSlot_collectionOperand ts').bind fun right _ hright => reads_ok ?_
  cases additive
  · exact .difference hleft hright
  · exact .union hleft hright

variable {nested : Level} {signature : Signature} {index : Nat}

theorem inSlot_slot (kind : ParamKind) (ts : Tokens) :
    Reads (fun p => kind = .collection element → p.InSlot element) (line.slot nested kind ts) := by
  rintro p ts' hslot rfl
  exact inSlot_collectionSlot ts p ts' hslot

/-- What stands in the first slot of a command with targets: these, or the name, if it has become
the command for a tier. -/
theorem inSlot_targetParams (setting : Bool) (ts : Tokens) :
    Reads (fun r : Signature × List Param => (r.2.getD 0 .absent).InSlot .character ∨
        ∃ name, r.2.getD 0 .absent = .ofText name)
      (line.targetParams nested signature setting ts) := by
  unfold targetParams
  dsimp only
  split
  · have hrest (ts : Tokens) :
        Reads (fun ps : List Param => ∃ name, ps.getD 0 .absent = .ofText name)
          ((if setting then line.setParams nested else line.unsetParams) ts) := by
      cases setting
      · exact reads_bind fun name _ => reads_ok ⟨name.1, rfl⟩
      · exact reads_bind fun binding _ => reads_ok ⟨binding.1.1, rfl⟩
    exact reads_bind fun redirected _ => (hrest _).bind fun ps _ h => reads_ok (.inr h)
  · refine (inSlot_collectionSlot ts).bind fun targets _ h => ?_
    exact reads_bind fun params _ => reads_ok (.inl h)

omit index signature in
/-- What holds of every slot and its kind holds along the slots of the standard form. -/
theorem reads_standardParams_of_slot {R : ParamKind → Param → Prop}
    (hslot : ∀ kind ts, Reads (R kind) (line.slot nested kind ts)) (signature : Signature)
    (kinds : List ParamKind) (ts : Tokens) :
    Reads (List.Forall₂ R kinds) (line.standardParams nested signature kinds ts) := by
  induction kinds generalizing ts with
  | nil => exact reads_ok .nil
  | cons kind kinds ih =>
    cases kind with
    | line =>
      have hline : R .line (.ofLine line.number) := hslot .line ts _ _ rfl
      exact (ih ts).bind fun ps _ hps => reads_ok (.cons hline hps)
    | _ =>
      unfold standardParams
      dsimp only
      split
      · exact reads_error _
      · exact (hslot _ _).bind fun p ts' hp => (ih ts').bind fun ps _ hps =>
          reads_ok (.cons hp hps)

/-- One case for each form that reads slots as collections. -/
theorem inSlot_params (hslot : signature.collectionAt? index = some element) (ts : Tokens) :
    Reads (fun r : Signature × List Param => (r.2.getD index .absent).InSlot element ∨
      ∃ name, r.2.getD index .absent = .ofText name) (line.params nested signature ts) := by
  obtain ⟨name, kinds, returns, form⟩ := signature
  unfold Signature.collectionAt? at hslot
  cases form with
  | standard | goTo =>
    dsimp only at hslot
    split at hslot <;> cases hslot
    next hkind =>
      exact (reads_standardParams_of_slot inSlot_slot _ kinds ts).bind fun ps _ hps =>
        reads_ok (.inl (Signature.fits_of_forall₂ hps hkind rfl))
  | setFor | unsetFor =>
    obtain ⟨rfl, hcharacter⟩ := Option.ite_none_right_eq_some.mp hslot
    cases hcharacter
    exact inSlot_targetParams _ _
  | set | unset | call | conditional => cases hslot

theorem inSlot_commandOver {word : String}
    (hsignature : line.registry.signature? word = some signature)
    (hslot : signature.collectionAt? index = some element) (a b : Nat) (ts : Tokens) :
    Reads (fun c : Command =>
        (c.param index).InSlot element ∨ ∃ name, c.param index = .ofText name)
      (line.commandOver nested (⟨.word word, a, b⟩ :: ts)) := by
  refine reads_bind fun read hread => reads_bind fun signature' hsignature' => ?_
  cases hread
  cases hsignature.symm.trans (signature?_of_lookUp hsignature')
  refine (inSlot_params hslot ts).bind fun ⟨signed, params⟩ _ h => ?_
  refine reads_bind fun c hc => reads_ok ?_
  unfold Command.ofParams at hc
  split at hc <;> cases hc
  exact h

end Line

/-! ### What it evaluates to -/

/-- The constraint is that of the collection it started from, and enforced on all that was added. -/
def Collection.GrownFrom (start c : Collection) : Prop :=
  c.element = start.element ∧ ∀ v ∈ c.items, v ∈ start.items ∨ start.element.accepts v = true

/-- A value that is a collection grown from another. -/
def Value.GrownFrom (start : Collection) (v : Value) : Prop :=
  ∃ c : Collection, v = c.toValue ∧ start.GrownFrom c

theorem Collection.GrownFrom.extend {start c d : Collection} {items : List Value}
    (h : start.GrownFrom c) (hd : c.extend items = .ok d) : start.GrownFrom d := by
  obtain ⟨rfl, haccepts⟩ := extend_eq_ok hd
  refine ⟨h.1, fun v hv => ?_⟩
  rcases List.mem_append.mp hv with hv | hv
  · exact h.2 v hv
  · exact .inr (h.1 ▸ haccepts v hv)

theorem Collection.grownFrom_refl (c : Collection) : c.GrownFrom c := ⟨rfl, fun _ hv => .inl hv⟩

namespace Value.GrownFrom

variable {start : Collection} {left right v : Value}

theorem union (h : left.GrownFrom start) (hv : Operator.union left right = .ok v) :
    v.GrownFrom start := by
  obtain ⟨a, b, c, rfl, rfl, hc, rfl⟩ := Operator.union_eq_ok hv
  obtain ⟨⟨_, _⟩, heq, ha⟩ := h
  cases heq
  exact ⟨c, rfl, ha.extend hc⟩

theorem difference (h : left.GrownFrom start) (hv : Operator.difference left right = .ok v) :
    v.GrownFrom start := by
  obtain ⟨a, b, rfl, rfl, rfl⟩ := Operator.difference_eq_ok hv
  obtain ⟨⟨_, _⟩, heq, ha⟩ := h
  cases heq
  exact ⟨a.difference b, rfl, ha.1, fun v hv => ha.2 v (Collection.mem_of_mem_difference hv)⟩

end Value.GrownFrom

section Evaluation

variable {program : Program} {settle : Settle} {ctx : Context} {element : ElementKind}
  {s s' : State} {v : Value}

theorem typed_grown (items : List Value) :
    (ctx.typed element items).Yields fun v => v.GrownFrom ⟨element, []⟩ := by
  unfold Context.typed
  split
  · next c hc => exact Run.yields_pure ⟨c, rfl, (Collection.grownFrom_refl _).extend hc⟩
  · exact Run.yields_fail _

theorem allObjects_grown :
    (ctx.allObjects program element).Yields fun v => v.GrownFrom ⟨element, []⟩ := by
  unfold Context.allObjects
  split
  · exact typed_grown _
  · exact Run.yields_fail _

theorem directoryObject_kind (key : String) :
    (ctx.directoryObject program element key).Yields fun v => v.kind = .object := by
  unfold Context.directoryObject
  split
  · exact Run.yields_pure rfl
  · exact Run.yields_fail _

/-- A text may stand for an object, and all else for itself. -/
theorem itemValue_yields :
    (ctx.itemValue program element v).Yields fun w => w.kind = .collection → w = v := by
  unfold Context.itemValue
  split
  · split
    · exact (directoryObject_kind _).mono fun hobject hcollection => by
        cases hobject.symm.trans hcollection
    · exact Run.yields_pure fun _ => rfl
  · exact Run.yields_pure fun _ => rfl

/-- Whether an item is a name that is not set is a question that changes nothing. -/
theorem bareObject?_eq_ok {item : Param} {key : Option String}
    (h : ctx.bareObject? element item s = .ok key s') : s' = s := by
  unfold Context.bareObject? at h
  cases hname : item.variableName? with
  | none =>
    rw [hname] at h
    cases h
    rfl
  | some name =>
    rw [hname] at h
    dsimp only at h
    obtain ⟨cell, t, hlook, h⟩ := Run.bind_eq_ok h
    cases hlook
    split at h <;> cases h <;> rfl

/-- A single item that is a collection is what the operand evaluates to. -/
theorem evaluateItems_single {operand : Param} {values : List Value}
    (h : evaluateItems program settle ctx element [operand] s = .ok values s') :
    ∃ v, values = [v] ∧ (v.kind = .collection →
      ∃ t, evaluate program settle ctx operand s = .ok v t) := by
  simp only [evaluateItems] at h
  obtain ⟨key, t, hkey, h⟩ := Run.bind_eq_ok h
  cases bareObject?_eq_ok hkey
  cases key with
  | some key =>
    obtain ⟨v, t, hv, h⟩ := Run.bind_eq_ok h
    cases h
    refine ⟨v, rfl, fun hcollection => ?_⟩
    cases (directoryObject_kind key v ⟨_, _, hv⟩).symm.trans hcollection
  | none =>
    obtain ⟨w, t, hw, h⟩ := Run.bind_eq_ok h
    obtain ⟨v, t', hv, h⟩ := Run.bind_eq_ok h
    cases h
    exact ⟨v, rfl, fun hcollection => ⟨t, itemValue_yields v ⟨_, _, hv⟩ hcollection ▸ hw⟩⟩

/-- **What a slot for a collection evaluates to** grew from nothing under the element kind of the
slot, or from a collection that its leftmost operand evaluated to. By induction on what is written:
a union and a difference grow from what their left operand grew from. -/
theorem Param.InSlot.evaluate_eq_ok {p : Param} (hp : p.InSlot element)
    (h : evaluate program settle ctx p s = .ok v s') :
    ∃ start, v.GrownFrom start ∧ (start = ⟨element, []⟩ ∨
      ∃ operand t, p.firstOperand = bareCollection element operand ∧
        evaluate program settle ctx operand s = .ok start.toValue t) := by
  induction hp generalizing v s' with
  | listed all items =>
    simp only [evaluate] at h
    cases all with
    | true => exact ⟨_, allObjects_grown v ⟨_, _, h⟩, .inl rfl⟩
    | false =>
      obtain ⟨values, t, -, h⟩ := Run.bind_eq_ok h
      exact ⟨_, typed_grown values v ⟨_, _, h⟩, .inl rfl⟩
  | bare operand =>
    simp only [bareCollection, evaluate] at h
    obtain ⟨values, t, hvalues, h⟩ := Run.bind_eq_ok h
    obtain ⟨w, rfl, hw⟩ := evaluateItems_single hvalues
    cases w with
    | collection inner items =>
      cases h
      obtain ⟨t, ht⟩ := hw rfl
      exact ⟨⟨inner, items⟩, ⟨_, rfl, Collection.grownFrom_refl _⟩, .inr ⟨operand, t, rfl, ht⟩⟩
    | _ => exact ⟨_, typed_grown _ v ⟨_, _, h⟩, .inl rfl⟩
  | union hleft hright ih _ =>
    simp only [evaluate] at h
    obtain ⟨left, t, hl, h⟩ := Run.bind_eq_ok h
    obtain ⟨right, t', -, h⟩ := Run.bind_eq_ok h
    obtain ⟨start, hgrown, hstart⟩ := ih hl
    exact ⟨start, yields_ofExcept (fun _ hv => hgrown.union hv) v ⟨_, _, h⟩, hstart⟩
  | difference hleft hright ih _ =>
    simp only [evaluate] at h
    obtain ⟨left, t, hl, h⟩ := Run.bind_eq_ok h
    obtain ⟨right, t', -, h⟩ := Run.bind_eq_ok h
    obtain ⟨start, hgrown, hstart⟩ := ih hl
    exact ⟨start, yields_ofExcept (fun _ hv => hgrown.difference hv) v ⟨_, _, h⟩, hstart⟩

end Evaluation

/-- **A slot yields what its element kind accepts, unless it starts from a collection that is ready
made.** Whatever is written in a slot that is read as a collection, and in whatever state it is
evaluated: all items of the result are accepted by the element kind of the slot, or the leftmost
operand is written without brackets and evaluates to a collection. Then the result is under the
constraint of that collection, and each item is one of its items or accepted by its kind. -/
theorem slot_admits_or_ready {line : Line} {n : Nat} {word : String} {a b : Nat} {ts rest : Tokens}
    {c : Command} {signature : Signature} {index : Nat} {element : ElementKind}
    (hread : (line.level n).command (⟨.word word, a, b⟩ :: ts) = .ok (c, rest))
    (hsignature : line.registry.signature? word = some signature)
    (hslot : signature.collectionAt? index = some element)
    {program : Program} {settle : Settle} {ctx : Context} (hctx : ctx.command = c)
    {s s' : State} {found : Collection}
    (hfound : ctx.collection program settle index s = .ok found s') :
    (found.element = element ∧ ∀ v ∈ found.items, element.accepts v = true) ∨
      ∃ (operand : Param) (ready : Collection) (t : State),
        (c.param index).firstOperand = bareCollection element operand ∧
        evaluate program settle ctx operand s = .ok ready.toValue t ∧
        found.element = ready.element ∧
        ∀ v ∈ found.items, v ∈ ready.items ∨ ready.element.accepts v = true := by
  subst hctx
  have hwritten : (ctx.param index).InSlot element ∨ ∃ name, ctx.param index = .ofText name := by
    cases n with
    | zero => cases hread
    | succ n => exact Line.inSlot_commandOver hsignature hslot a b ts _ _ hread
  unfold Context.collection at hfound
  obtain ⟨v, t, hv, hfound⟩ := Run.bind_eq_ok hfound
  rcases hwritten with hwritten | ⟨name, hname⟩
  · obtain ⟨start, ⟨c, rfl, hc⟩, hstart⟩ := hwritten.evaluate_eq_ok hv
    cases hfound
    rcases hstart with rfl | ⟨operand, t, hfirst, hoperand⟩
    · exact .inl ⟨hc.1, fun v hv => (hc.2 v hv).resolve_left List.not_mem_nil⟩
    · exact .inr ⟨operand, start, t, hfirst, hoperand, hc⟩
  · -- the name of a variable is no collection
    unfold Context.value at hv
    rw [hname] at hv
    cases hv
    cases hfound

/-- Two commands for collections of numbers: one whose slot is read as a collection, and one that
gives a name to any value. -/
def numberCommands : Registry :=
  Registry.registerAll Table.empty [
    ⟨{ name := "TAKE", params := [.collection .number] }, .host .typed⟩,
    ⟨{ name := "PUT", params := [.name, .collection .number], form := .set }, .host .typed⟩]

/-- A line of these commands. -/
def numberLine : Line := ⟨numberCommands, [], 0⟩

/-- `TAKE: [1, 2] WITHOUT A` -/
def takeListTokens : Tokens :=
  [⟨.word "TAKE", 0, 4⟩, ⟨.symbol ':', 4, 5⟩, ⟨.symbol '[', 6, 7⟩, ⟨.number 1, 7, 8⟩,
    ⟨.symbol ',', 8, 9⟩, ⟨.number 2, 10, 11⟩, ⟨.symbol ']', 11, 12⟩, ⟨.word "WITHOUT", 13, 20⟩,
    ⟨.word "A", 21, 22⟩]

/-- `TAKE: A` -/
def takeTokens : Tokens := [⟨.word "TAKE", 0, 4⟩, ⟨.symbol ':', 4, 5⟩, ⟨.word "A", 6, 7⟩]

/-- `PUT: B = A` -/
def putTokens : Tokens :=
  [⟨.word "PUT", 0, 3⟩, ⟨.symbol ':', 3, 4⟩, ⟨.word "B", 5, 6⟩, ⟨.symbol '=', 7, 8⟩,
    ⟨.word "A", 9, 10⟩]

/-- `A` holds a collection of texts. -/
def textState : State where
  memory := { cells := #[.collection .text [.text "x"]], scopes := #[⟨[("A", 0)]⟩] }

def numberProgram : Program := ⟨default, numberCommands, {}, {}⟩

/-- A command that is executed where `A` is known. -/
def numberContext (c : Command) : Context := ⟨c, ⟨"c1", "BOB"⟩, 0, 0, none, 0⟩

/-- What `TAKE: [1, 2] WITHOUT A` is read as. -/
def takeList : Command :=
  ⟨"TAKE", [.difference (.collection .number false false [.ofFloat 1, .ofFloat 2])
    (bareCollection .number (.variable "A"))], 0⟩

/-- A list stays one of numbers, whatever is taken off it. -/
theorem slot_admits_or_ready_list :
    (numberLine.level 9).command takeListTokens = .ok (takeList, []) ∧
      (numberContext takeList).collection numberProgram (settle numberProgram 1) 0 textState =
        .ok ⟨.number, [.ofFloat 1, .ofFloat 2]⟩ textState ∧
      ∀ v ∈ [Value.ofFloat 1, .ofFloat 2], ElementKind.number.accepts v = true := by
  have hread : (numberLine.level 9).command takeListTokens = .ok (takeList, []) := rfl
  have hfound : (numberContext takeList).collection numberProgram (settle numberProgram 1) 0
      textState = .ok ⟨.number, [.ofFloat 1, .ofFloat 2]⟩ textState := rfl
  have hslot : Signature.collectionAt? { name := "TAKE", params := [.collection .number] } 0 =
      some .number := rfl
  refine ⟨hread, hfound, ?_⟩
  rcases slot_admits_or_ready hread rfl hslot rfl hfound with
    h | ⟨operand, ready, t, hfirst, -⟩
  · exact h.2
  · cases hfirst

/-- All that a slot for a collection yields in a form is accepted by the kind the slot has. -/
def Form.SlotsAdmit (form : Form) : Prop :=
  ∀ (line : Line) (n : Nat) (ts rest : Tokens) (c : Command) (signature : Signature) (index : Nat)
    (element : ElementKind), (line.level n).command ts = .ok (c, rest) →
    line.registry.signature? c.name = some signature → signature.form = form →
    signature.params[index]? = some (.collection element) →
    ∀ (program : Program) (settle : Settle) (ctx : Context) (s s' : State) (found : Collection),
      ctx.command = c → ctx.collection program settle index s = .ok found s' →
      ∀ v ∈ found.items, element.accepts v = true

/-- **Not all slots yield what their kind accepts**: neither the slots that are read as collections,
nor those of a form that reads any value there. -/
theorem not_slotsAdmit : ¬ Form.SlotsAdmit .standard ∧ ¬ Form.SlotsAdmit .set := by
  constructor
  · intro h
    have htake := h numberLine 3 takeTokens [] _ _ 0 .number rfl rfl rfl rfl numberProgram
      (settle numberProgram 1) (numberContext _) textState textState ⟨.text, [.text "x"]⟩ rfl rfl
    cases htake (.text "x") (List.mem_singleton_self _)
  · intro h
    have hput := h numberLine 5 putTokens [] _ _ 1 .number rfl rfl rfl rfl numberProgram
      (settle numberProgram 1) (numberContext _) textState textState ⟨.text, [.text "x"]⟩ rfl rfl
    cases hput (.text "x") (List.mem_singleton_self _)

end StageScript
