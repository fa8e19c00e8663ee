import StageScript.Engine.Operator
import StageScript.Value.Json

/-!
# Typed values

A value is typed if every collection in it, at whatever depth, admits the items it has
(`Value.Typed`). Nothing but collections can fail to be, so all depends on the ways in which
collections come about. There are few: items are checked one after the other when they are added
(`Collection.extend_eq_foldlM`), a difference has items of the collection it is taken from, and what
is made without a constraint, by a host or by reading JSON, admits everything. What a host makes in
these ways is typed (`Value.Built.typed_of`), and so is what an operator makes of typed values
(`Operator.apply_typed`).

A push that is refused leaves the collection as it is (`Collection.pushIn_eq`). A union and a
collection of given items are made by one push after the other, of which some may have been done
when one is refused; but they are made on a copy (`Collection.onCopy_eq`).
-/

namespace StageScript

/-- **Every collection in a value admits its items.** -/
inductive Value.Typed : Value → Prop
  | scalar {v : Value} (h : v.kind ≠ .collection) : Typed v
  | collection {element : ElementKind} {items : List Value}
    (accepts : ∀ v ∈ items, element.accepts v = true) (typed : ∀ v ∈ items, Typed v) :
    Typed (.collection element items)

namespace Value.Typed

variable {element : ElementKind} {items : List Value}

@[simp] theorem unit : Value.unit.Typed := .scalar (by simp [Value.kind])

@[simp] theorem boolean (b : Bool) : (Value.boolean b).Typed := .scalar (by simp [Value.kind])

@[simp] theorem number (n : Number) : (Value.number n).Typed := .scalar (by simp [Value.kind])

@[simp] theorem ofFloat (x : Float) : (Value.ofFloat x).Typed := number _

@[simp] theorem text (s : String) : (Value.text s).Typed := .scalar (by simp [Value.kind])

@[simp] theorem object (o : Object) : (Value.object o).Typed := .scalar (by simp [Value.kind])

theorem accepts_of_mem (h : (Value.collection element items).Typed) :
    ∀ v ∈ items, element.accepts v = true := by
  cases h with
  | scalar hkind => exact absurd rfl hkind
  | collection accepts _ => exact accepts

theorem of_mem (h : (Value.collection element items).Typed) : ∀ v ∈ items, v.Typed := by
  cases h with
  | scalar hkind => exact absurd rfl hkind
  | collection _ typed => exact typed

/-- A collection that admits anything. -/
theorem any (h : ∀ v ∈ items, v.Typed) : (Value.collection .any items).Typed :=
  .collection (fun _ _ => rfl) h

end Value.Typed

/-! ### Making collections -/

namespace Collection

variable {c d : Collection} {element : ElementKind} {items : List Value} {v : Value}

theorem extend_eq_ok (h : c.extend items = .ok d) :
    d = { c with items := c.items ++ items } ∧ ∀ v ∈ items, c.element.accepts v = true := by
  unfold extend at h
  split at h
  · cases h
  · next hnone =>
    cases h
    refine ⟨rfl, fun v hv => ?_⟩
    simpa using List.find?_eq_none.mp hnone v hv

theorem push_of_accepts (h : c.element.accepts v = true) :
    c.push v = .ok { c with items := c.items ++ [v] } := by
  simp [push, extend, h]

theorem push_of_not_accepts (h : ¬ c.element.accepts v = true) :
    c.push v = .error { cause := .misfit v.kind c.element } := by
  simp [push, extend, h]

/-- **Items are added one after the other**, up to the first that does not fit. -/
theorem extend_eq_foldlM (c : Collection) (items : List Value) :
    c.extend items = items.foldlM push c := by
  induction items generalizing c with
  | nil =>
    rw [List.foldlM_nil, extend, List.find?_nil, List.append_nil]
    rfl
  | cons v vs ih =>
    rw [List.foldlM_cons]
    by_cases hv : c.element.accepts v = true
    · rw [push_of_accepts hv]
      refine Eq.trans ?_ (ih _)
      simp [extend, hv]
    · rw [push_of_not_accepts hv, extend, List.find?_cons_of_pos (by simpa using hv)]
      rfl

theorem extend_typed (hc : c.toValue.Typed) (hitems : ∀ v ∈ items, v.Typed)
    (h : c.extend items = .ok d) : d.toValue.Typed := by
  obtain ⟨rfl, haccepts⟩ := extend_eq_ok h
  refine .collection (fun v hv => ?_) (fun v hv => ?_)
  · exact (List.mem_append.mp hv).elim (hc.accepts_of_mem v) (haccepts v)
  · exact (List.mem_append.mp hv).elim (hc.of_mem v) (hitems v)

theorem push_typed (hc : c.toValue.Typed) (hv : v.Typed) (h : c.push v = .ok d) :
    d.toValue.Typed :=
  extend_typed hc (fun _ hw => List.mem_singleton.mp hw ▸ hv) h

theorem typed_typed (hitems : ∀ v ∈ items, v.Typed) (h : typed element items = .ok c) :
    c.toValue.Typed :=
  extend_typed (.collection (by simp) (by simp)) hitems h

theorem union_typed {other : Collection} (hc : c.toValue.Typed) (ho : other.toValue.Typed)
    (h : c.union other = .ok d) : d.toValue.Typed := extend_typed hc ho.of_mem h

theorem mem_of_mem_difference {other : Collection} (h : v ∈ (c.difference other).items) :
    v ∈ c.items := by
  have hfold : ∀ removed rest : List Value,
      v ∈ removed.foldl (fun rest item => rest.eraseP (· == item)) rest → v ∈ rest := by
    intro removed
    induction removed with
    | nil => exact fun _ h => h
    | cons item removed ih => exact fun rest h => List.mem_of_mem_eraseP (ih _ h)
  exact hfold other.items c.items h

/-- A difference has no items but those of the collection it is taken from. -/
theorem difference_typed {other : Collection} (hc : c.toValue.Typed) :
    (c.difference other).toValue.Typed :=
  .collection (fun v hv => hc.accepts_of_mem v (mem_of_mem_difference hv))
    fun v hv => hc.of_mem v (mem_of_mem_difference hv)

/-! ### In place

A push adds an item to the collection itself. A collection of given items and a union are made item
by item as well, but on a copy. -/

/-- Adds an item in place. -/
def pushIn (v : Value) : EStateM Fault Collection Unit := do
  let c ← get
  if c.element.accepts v then
    set { c with items := c.items ++ [v] }
  else
    throw { cause := .misfit v.kind c.element }

/-- Adds several items in place. Those before one that does not fit stay. -/
def extendIn (items : List Value) : EStateM Fault Collection Unit := items.forM pushIn

/-- A collection made of inputs, by adding items to a copy. -/
def onCopy {σ : Type} (start : σ → Collection) (items : σ → List Value) :
    EStateM Fault σ Collection := do
  let inputs ← get
  match extendIn (items inputs) (start inputs) with
  | .ok _ c => return c
  | .error fault _ => throw fault

/-- The collection of some items under a constraint. -/
def typedIn (element : ElementKind) : EStateM Fault (List Value) Collection :=
  onCopy (fun _ => ⟨element, []⟩) id

/-- The union of two collections. -/
def unionIn : EStateM Fault (Collection × Collection) Collection := onCopy (·.1) (·.2.items)

/-- **A push that is refused leaves the collection as it is.** -/
theorem pushIn_eq (v : Value) (c : Collection) :
    pushIn v c = match c.push v with
      | .ok d => .ok () d
      | .error fault => .error fault c := by
  have happly : pushIn v c = (if c.element.accepts v then set { c with items := c.items ++ [v] }
      else throw { cause := .misfit v.kind c.element } : EStateM Fault Collection Unit) c := rfl
  rw [happly]
  by_cases hv : c.element.accepts v = true
  · rw [if_pos hv, push_of_accepts hv]
    rfl
  · rw [if_neg hv, push_of_not_accepts hv]
    rfl

/-- Adding items in place gives what `extend` gives, or else its fault. -/
theorem extendIn_eq (items : List Value) (c : Collection) :
    (∃ d, c.extend items = .ok d ∧ extendIn items c = .ok () d) ∨
      ∃ fault rest, c.extend items = .error fault ∧ extendIn items c = .error fault rest := by
  rw [extend_eq_foldlM]
  unfold extendIn
  induction items generalizing c with
  | nil => exact .inl ⟨c, rfl, rfl⟩
  | cons v vs ih =>
    have hfirst := pushIn_eq v c
    have hsplit : (v :: vs).forM pushIn = (pushIn v >>= fun _ => vs.forM pushIn) := rfl
    rw [List.foldlM_cons, hsplit]
    cases hpush : c.push v with
    | ok d =>
      rw [hpush] at hfirst
      have hnext : (pushIn v >>= fun _ => vs.forM pushIn) c = vs.forM pushIn d := by
        simp only [bind, EStateM.bind, hfirst]
      rw [hnext]
      exact ih d
    | error fault =>
      rw [hpush] at hfirst
      refine .inr ⟨fault, c, rfl, ?_⟩
      simp only [bind, EStateM.bind, hfirst]

/-- **What is made on a copy leaves its inputs as they are**, refused or not. -/
theorem onCopy_eq {σ : Type} (start : σ → Collection) (items : σ → List Value) (inputs : σ) :
    onCopy start items inputs = match (start inputs).extend (items inputs) with
      | .ok d => .ok d inputs
      | .error fault => .error fault inputs := by
  have happly : onCopy start items inputs =
      (match extendIn (items inputs) (start inputs) with
      | .ok _ c => pure c
      | .error fault _ => throw fault : EStateM Fault σ Collection) inputs := rfl
  rw [happly]
  rcases extendIn_eq (items inputs) (start inputs) with
    ⟨d, hextend, hin⟩ | ⟨fault, rest, hextend, hin⟩
  · rw [hextend, hin]
    rfl
  · rw [hextend, hin]
    rfl

theorem onCopy_of_error {σ : Type} {start : σ → Collection} {items : σ → List Value} {inputs : σ}
    {fault : Fault} (h : (start inputs).extend (items inputs) = .error fault) :
    onCopy start items inputs = .error fault inputs := by
  rw [onCopy_eq, h]

theorem typedIn_of_error {fault : Fault} (h : typed element items = .error fault) :
    typedIn element items = .error fault items := onCopy_of_error h

theorem unionIn_of_error {other : Collection} {fault : Fault} (h : c.union other = .error fault) :
    unionIn (c, other) = .error fault (c, other) := onCopy_of_error h

theorem pushIn_of_error {fault : Fault} (h : c.push v = .error fault) :
    pushIn v c = .error fault c := by
  rw [pushIn_eq, h]

end Collection

namespace Json

mutual

/-- What is read admits anything. -/
theorem toValue?_typed : ∀ {json : Json} {v : Value}, json.toValue? = some v → v.Typed
  | .null, _, h | .boolean _, _, h => by
    cases h
    simp
  | .number _, _, h | .text _, _, h | .object _, _, h => by
    obtain ⟨_, -, rfl⟩ := Option.map_eq_some_iff.mp h
    simp
  | .array _, _, h => by
    obtain ⟨_, hvs, rfl⟩ := Option.map_eq_some_iff.mp h
    exact .any (toValues?_typed hvs)

theorem toValues?_typed : ∀ {js : List Json} {vs : List Value}, toValues? js = some vs →
    ∀ v ∈ vs, v.Typed
  | [], _, h => by
    cases h
    simp
  | j :: js, _, h => by
    obtain ⟨w, hw, h⟩ := Option.bind_eq_some_iff.mp h
    obtain ⟨ws, hws, h⟩ := Option.bind_eq_some_iff.mp h
    cases h
    exact List.forall_mem_cons.mpr ⟨toValue?_typed hw, toValues?_typed hws⟩

end

end Json

/-! ### Values of a host -/

/-- **The values a host can make** from those it was given: values that are no collections, and
collections made by the operations there are for them or read from JSON. -/
inductive Value.Built (given : Value → Prop) : Value → Prop
  | given {v : Value} (h : given v) : Built given v
  | scalar {v : Value} (h : v.kind ≠ .collection) : Built given v
  | typed {element : ElementKind} {items : List Value} {c : Collection}
    (hitems : ∀ v ∈ items, Built given v) (h : Collection.typed element items = .ok c) :
    Built given c.toValue
  | push {c d : Collection} {v : Value} (hc : Built given c.toValue) (hv : Built given v)
    (h : c.push v = .ok d) : Built given d.toValue
  | union {c other d : Collection} (hc : Built given c.toValue) (ho : Built given other.toValue)
    (h : c.union other = .ok d) : Built given d.toValue
  | difference {c other : Collection} (hc : Built given c.toValue)
    (ho : Built given other.toValue) : Built given (c.difference other).toValue
  | ofItems {items : List Value} (hitems : ∀ v ∈ items, Built given v) :
    Built given (Collection.ofItems items).toValue
  | ofJson {text : String} {v : Value} (h : Value.ofJson? text = some v) : Built given v

/-- **What a host makes of typed values is typed.** -/
theorem Value.Built.typed_of {given : Value → Prop} (hgiven : ∀ v, given v → v.Typed) {v : Value}
    (h : v.Built given) : v.Typed := by
  induction h with
  | given h => exact hgiven _ h
  | scalar h => exact .scalar h
  | typed _ h ih => exact Collection.typed_typed ih h
  | push _ _ h ihc ihv => exact Collection.push_typed ihc ihv h
  | union _ _ h ihc iho => exact Collection.union_typed ihc iho h
  | difference _ _ ihc _ => exact Collection.difference_typed ihc
  | ofItems _ ih => exact .any ih
  | ofJson h =>
    obtain ⟨json, -, hvalue⟩ := Option.bind_eq_some_iff.mp h
    exact Json.toValue?_typed hvalue

/-! ### Operators -/

namespace Operator

variable {left right v : Value}

theorem math_typed {operator : MathOperator} (h : math operator left right = .ok v) : v.Typed := by
  unfold math at h
  split at h
  · cases h
  · split at h
    · cases h
      exact .number _
    · split at h <;> cases h
      exact .number _

theorem concat_typed (h : concat left right = .ok v) : v.Typed := by
  unfold concat at h
  split at h <;> cases h
  exact .text _

theorem both_typed (h : both left right = .ok v) : v.Typed := by
  unfold both at h
  split at h <;> cases h
  exact .boolean _

theorem collections_eq_ok {operator : String} {a b : Collection}
    (h : collections operator left right = .ok (a, b)) : left = a.toValue ∧ right = b.toValue := by
  unfold collections at h
  cases left <;> cases right <;> cases h
  exact ⟨rfl, rfl⟩

theorem union_eq_ok (h : union left right = .ok v) :
    ∃ a b c : Collection, left = a.toValue ∧ right = b.toValue ∧ a.union b = .ok c ∧
      v = c.toValue := by
  unfold union at h
  cases hc : collections "WITH" left right with
  | error e =>
    rw [hc] at h
    cases h
  | ok pair =>
    obtain ⟨hl, hr⟩ := collections_eq_ok hc
    rw [hc] at h
    dsimp only [bind, Except.bind] at h
    split at h <;> cases h
    next c hunion => exact ⟨pair.1, pair.2, c, hl, hr, hunion, rfl⟩

theorem difference_eq_ok (h : difference left right = .ok v) :
    ∃ a b : Collection, left = a.toValue ∧ right = b.toValue ∧ v = (a.difference b).toValue := by
  unfold difference at h
  cases hc : collections "WITHOUT" left right with
  | error e =>
    rw [hc] at h
    cases h
  | ok pair =>
    obtain ⟨hl, hr⟩ := collections_eq_ok hc
    rw [hc] at h
    cases h
    exact ⟨pair.1, pair.2, hl, hr, rfl⟩

theorem union_typed (hl : left.Typed) (hr : right.Typed) (h : union left right = .ok v) :
    v.Typed := by
  obtain ⟨a, b, c, rfl, rfl, hc, rfl⟩ := union_eq_ok h
  exact Collection.union_typed hl hr hc

theorem difference_typed (hl : left.Typed) (h : difference left right = .ok v) : v.Typed := by
  obtain ⟨a, b, rfl, rfl, rfl⟩ := difference_eq_ok h
  exact Collection.difference_typed hl

/-- **An operator makes a typed value of typed ones**, whichever meaning was chosen for it. -/
theorem apply_typed {choice : Choice} (hl : left.Typed) (hr : right.Typed)
    (h : apply choice left right = .ok v) : v.Typed := by
  cases choice with
  | add | subtract => exact math_typed h
  | concat => exact concat_typed h
  | union => exact union_typed hl hr h
  | difference => exact difference_typed hl h
  | and => exact both_typed h

end Operator

end StageScript
