import StageScript.Proofs.Engine.Termination
import StageScript.Proofs.Grammar.WellFormed
import StageScript.Proofs.Value.Typed

/-!
# Static kinds are sound

The grammar tells the kind of an operand before anything is run, and it gives operators their
meaning by that kind. If the commands of a program keep what their signatures promise
(`Program.Truthful`), then the value of a param, whenever it has one, is of the static kind of the
param (`evaluate_admits`). An operator that was chosen for a known kind then never finds fault with
its left operand (`foldStep_sparesLeft`).

The kind of an operand is the static kind of its param (`Operand.IsExact`), with one exception. A
command that is written with `WORLD` or `PROGRAM` in the place of its targets turns into another
command, but its operand keeps the kind that the signature of the written word promises
(`Operand.IsRedirected`).
-/

namespace StageScript

/-! ### Kinds and values -/

/-- A value that a static kind does not rule out. -/
def StaticKind.Admits (kind : StaticKind) (v : Value) : Prop :=
  kind = .unknown ∨ kind = .ofValueKind v.kind

/-- Signatures are found under their own names, as they are in every registry that was filled by
registering commands. -/
def Registry.Keyed (registry : Registry) : Prop :=
  ∀ key signature, registry.signature? key = some signature → signature.name = key

theorem Registry.keyed_register {registry : Registry} (h : registry.Keyed) (type : CommandType) :
    (registry.register type).Keyed := by
  intro key signature hkey
  unfold Registry.register Registry.signature? at hkey
  rw [Table.get?_insert] at hkey
  split at hkey
  · next heq =>
    cases hkey
    exact heq.symm
  · exact h key signature hkey

theorem Registry.keyed_registerAll {registry : Registry} (h : registry.Keyed)
    (types : List CommandType) : (registry.registerAll types).Keyed := by
  unfold Registry.registerAll
  induction types generalizing registry with
  | nil => exact h
  | cons type types ih => exact ih (keyed_register h type)

theorem Registry.keyed_builtin : builtin.Keyed := by
  refine keyed_registerAll (fun key signature hkey => ?_) _
  cases hkey

/-- **The commands keep what their signatures promise**: a command whose signature has a kind for
its result settles to no value of another kind. -/
def Program.Truthful (program : Program) : Prop :=
  ∀ fuel ctx (c : Command) signature kind, program.registry.signature? c.name = some signature →
    signature.returns = some kind →
      (settle program fuel ctx c).Yields fun r => ∀ v, r = .value v → v.kind = kind

/-! ### Evaluation -/

section Evaluate

variable {program : Program} {settle : Settle} {ctx : Context}

theorem StaticKind.Admits.of_kind {kind : ValueKind} {v : Value} (h : v.kind = kind) :
    (StaticKind.ofValueKind kind).Admits v := .inr (by rw [h])

theorem yields_ofExcept {α : Type} {Q : α → Prop} {line : Nat} {e : Except Cause α}
    (h : ∀ a, e = .ok a → Q a) : (Run.ofExcept line e).Yields Q := by
  cases e with
  | ok a => exact Run.yields_pure (h a rfl)
  | error cause => exact Run.yields_fail _

theorem Run.ofExcept_eq_error {α : Type} {line : Nat} {e : Except Cause α} {s t : State} {f : Fault}
    (h : Run.ofExcept line e s = .error (.fault f) t) : e = .error f.cause ∧ t = s := by
  cases e with
  | ok a => cases h
  | error cause =>
    cases h
    exact ⟨rfl, rfl⟩

theorem Context.typed_kind (element : ElementKind) (items : List Value) :
    (ctx.typed element items).Yields fun v => v.kind = .collection := by
  unfold Context.typed
  split
  · exact Run.yields_pure rfl
  · exact Run.yields_fail _

theorem Operator.math_kind {operator : MathOperator} {x y v : Value}
    (h : math operator x y = .ok v) : v.kind = .number := by
  unfold math at h
  split at h
  · cases h
  · split at h
    · cases h
      rfl
    · split at h <;> cases h
      rfl

theorem Operator.concat_kind {x y v : Value} (h : concat x y = .ok v) : v.kind = .text := by
  unfold concat at h
  split at h <;> cases h
  rfl

theorem Operator.union_kind {x y v : Value} (h : union x y = .ok v) : v.kind = .collection := by
  obtain ⟨_, _, _, _, _, _, rfl⟩ := union_eq_ok h
  rfl

theorem Operator.difference_kind {x y v : Value} (h : difference x y = .ok v) :
    v.kind = .collection := by
  obtain ⟨_, _, _, _, rfl⟩ := difference_eq_ok h
  rfl

/-- A condition has a truth value. -/
theorem condition_kind (comparator : Comparator) (left : Param) (right : Option Param) :
    (evaluate program settle ctx (.condition comparator left right)).Yields
      fun v => v.kind = .boolean := by
  have htruth : ∀ connected x (f : Bool → Bool),
      (do let b ← ctx.truth connected x; return .boolean (f b) : Run Value).Yields
        fun v => v.kind = .boolean := fun connected x f =>
    Run.yields_bind fun b => Run.yields_pure rfl
  simp only [evaluate]
  cases comparator with
  | identity => exact Run.yields_bind fun x => htruth false x id
  | not => exact Run.yields_bind fun x => htruth false x (!·)
  | and =>
    refine Run.yields_bind fun x => Run.yields_bind fun b => ?_
    split
    · exact Run.yields_bind fun y => htruth true y id
    · exact Run.yields_pure rfl
  | or =>
    refine Run.yields_bind fun x => Run.yields_bind fun b => ?_
    split
    · exact Run.yields_pure rfl
    · exact Run.yields_bind fun y => htruth true y id
  | equals =>
    refine Run.yields_bind fun b => ?_
    split
    · exact Run.yields_pure rfl
    · exact Run.yields_bind fun x => Run.yields_bind fun y => Run.yields_pure rfl
  | greaterThan | lessThan =>
    exact Run.yields_bind fun x => Run.yields_bind fun y => Run.yields_bind fun b =>
      Run.yields_pure rfl

/-- A collection literal has a collection for its value, also where it is bare. -/
theorem collection_kind (element : ElementKind) (bare all : Bool) (items : List Param) :
    (evaluate program settle ctx (.collection element bare all items)).Yields
      fun v => v.kind = .collection := by
  simp only [evaluate]
  split
  · unfold Context.allObjects
    split
    · exact Context.typed_kind _ _
    · exact Run.yields_fail _
  · refine Run.yields_bind fun values => ?_
    split
    · exact Run.yields_pure rfl
    · exact Context.typed_kind _ _

end Evaluate

section Truthful

variable {program : Program} (ht : program.Truthful) (fuel : Nat) (ctx : Context)
include ht

/-- **The value of a param is of its static kind.** One case for each kind of param. -/
theorem evaluate_admits (p : Param) :
    (evaluate program (settle program fuel) ctx p).Yields
      (StaticKind.ofParam program.registry p).Admits := by
  cases p with
  | value v => exact Run.yields_pure (.inr rfl)
  | «variable» name | loopObject | bindings list | absent | ambiguous place left right =>
    exact fun _ _ => .inl rfl
  | loopIndex =>
    simp only [evaluate]
    split
    · exact Run.yields_pure (.inr rfl)
    · exact Run.yields_fail _
  | command c =>
    simp only [evaluate, StaticKind.ofParam, StaticKind.ofCommand]
    cases hs : (program.registry.signature? c.name).bind (·.returns) with
    | none => exact fun _ _ => .inl rfl
    | some kind =>
      obtain ⟨signature, hsignature, hreturns⟩ := Option.bind_eq_some_iff.mp hs
      have hsettle := ht fuel ctx c signature kind hsignature hreturns
      refine Run.yields_bind_of hsettle fun r hr => ?_
      cases r with
      | value v => exact Run.yields_pure (StaticKind.Admits.of_kind (hr v rfl))
      | signal s => exact Run.yields_fail _
  | collection element bare all items =>
    exact (collection_kind element bare all items).mono StaticKind.Admits.of_kind
  | math operator left right =>
    refine Run.Yields.mono (P := fun v => v.kind = .number) ?_ StaticKind.Admits.of_kind
    simp only [evaluate]
    exact Run.yields_bind fun x => Run.yields_bind fun y =>
      yields_ofExcept fun v h => Operator.math_kind h
  | concat left right =>
    refine Run.Yields.mono (P := fun v => v.kind = .text) ?_ StaticKind.Admits.of_kind
    simp only [evaluate]
    exact Run.yields_bind fun x => Run.yields_bind fun y =>
      yields_ofExcept fun v h => Operator.concat_kind h
  | union left right =>
    refine Run.Yields.mono (P := fun v => v.kind = .collection) ?_ StaticKind.Admits.of_kind
    simp only [evaluate]
    exact Run.yields_bind fun x => Run.yields_bind fun y =>
      yields_ofExcept fun v h => Operator.union_kind h
  | difference left right =>
    refine Run.Yields.mono (P := fun v => v.kind = .collection) ?_ StaticKind.Admits.of_kind
    simp only [evaluate]
    exact Run.yields_bind fun x => Run.yields_bind fun y =>
      yields_ofExcept fun v h => Operator.difference_kind h
  | condition comparator left right =>
    exact (condition_kind comparator left right).mono StaticKind.Admits.of_kind

end Truthful

/-! ### Operators behind an operand of known kind -/

namespace Operator

/-- An operator finds no fault with left operands of a kind: where it refuses an operand, that is
the right one, and it is of another kind. -/
def Spares (operator : Value → Value → Except Cause Value) (kind : ValueKind) : Prop :=
  ∀ x y symbol found, x.kind = kind → operator x y = .error (.unsupportedOperator symbol found) →
    found = y.kind ∧ found ≠ kind

theorem math_spares (operator : MathOperator) : Spares (math operator) .number := by
  intro x y symbol found hx h
  cases x <;> cases hx
  cases y <;> simp only [math, Value.asNumber?, refuse] at h <;> split at h <;> cases h <;>
    exact ⟨rfl, by simp [Value.kind]⟩

theorem concat_spares : Spares concat .text := by
  intro x y symbol found hx h
  cases x <;> cases hx
  cases h

theorem collections_spares {operator : String} {x y : Value} {cause : Cause}
    (hx : x.kind = .collection) (h : collections operator x y = .error cause) :
    cause = .unsupportedOperator operator y.kind ∧ y.kind ≠ .collection := by
  cases x <;> cases hx
  cases y <;> cases h <;> exact ⟨rfl, by simp [Value.kind]⟩

theorem union_spares : Spares union .collection := by
  intro x y symbol found hx h
  unfold union at h
  cases hc : collections "WITH" x y with
  | error cause =>
    obtain ⟨rfl, hy⟩ := collections_spares hx hc
    rw [hc] at h
    cases h
    exact ⟨rfl, hy⟩
  | ok pair =>
    -- what is left to fail is an item that the left collection does not admit
    rw [hc] at h
    dsimp only [bind, Except.bind] at h
    unfold Collection.union Collection.extend at h
    split at h
    · cases h
    · next f hf =>
      split at hf <;> cases hf
      cases h

theorem difference_spares : Spares difference .collection := by
  intro x y symbol found hx h
  unfold difference at h
  cases hc : collections "WITHOUT" x y with
  | error cause =>
    obtain ⟨rfl, hy⟩ := collections_spares hx hc
    rw [hc] at h
    cases h
    exact ⟨rfl, hy⟩
  | ok pair =>
    rw [hc] at h
    cases h

end Operator

/-- The operator of a node and its operands, if its meaning was chosen when it was read. -/
def Param.operation? :
    Param → Option ((Value → Value → Except Cause Value) × Param × Option Param)
  | .math operator left right => some (Operator.math operator, left, right)
  | .concat left right => some (Operator.concat, left, some right)
  | .union left right => some (Operator.union, left, some right)
  | .difference left right => some (Operator.difference, left, some right)
  | _ => none

/-- The outcome of an operator is that of its operands, the left one first, and then its own. -/
theorem evaluate_operation {program : Program} {settle : Settle} {ctx : Context}
    {node left : Param} {right : Option Param} {operator : Value → Value → Except Cause Value}
    (h : node.operation? = some (operator, left, right)) :
    evaluate program settle ctx node = (do
      let x ← evaluate program settle ctx left
      let y ← evaluateOption program settle ctx right
      Run.ofExcept ctx.line (operator x y)) := by
  cases node <;> cases h <;> rfl

/-- **A node finds no fault with its left operand.** It joins that operand and a right one by an
operator, and where its evaluation stops because an operator does not support an operand, this has
happened within one of its two operands, or its own operator has refused the value of the right one,
which is not of the kind of the left one. -/
def SparesLeft (program : Program) (settle : Settle) (ctx : Context) (node left : Param) : Prop :=
  ∃ operator right, node.operation? = some (operator, left, right) ∧
    ∀ s f symbol found t, evaluate program settle ctx node s = .error (.fault f) t →
      f.cause = .unsupportedOperator symbol found →
        evaluate program settle ctx left s = .error (.fault f) t ∨
        ∃ x s', evaluate program settle ctx left s = .ok x s' ∧
          (evaluateOption program settle ctx right s' = .error (.fault f) t ∨
            ∃ y, evaluateOption program settle ctx right s' = .ok y t ∧
              operator x y = .error f.cause ∧ found = y.kind ∧ found ≠ x.kind)

theorem SparesLeft.of_spares {program : Program} {settle : Settle} {ctx : Context}
    {node left : Param} {right : Option Param} {operator : Value → Value → Except Cause Value}
    {kind : ValueKind} (hnode : node.operation? = some (operator, left, right))
    (hleft : (evaluate program settle ctx left).Yields fun v => v.kind = kind)
    (ho : Operator.Spares operator kind) : SparesLeft program settle ctx node left := by
  refine ⟨operator, right, hnode, fun s f symbol found t h hcause => ?_⟩
  rw [evaluate_operation hnode] at h
  rcases Run.bind_eq_error h with h | ⟨x, s', hx, h⟩
  · exact .inl h
  refine .inr ⟨x, s', hx, ?_⟩
  rcases Run.bind_eq_error h with h | ⟨y, t', hy, h⟩
  · exact .inl h
  -- both operands have values, so it is the operator that refuses one of them
  obtain ⟨hop, rfl⟩ := Run.ofExcept_eq_error h
  have hkind := hleft x ⟨s, s', hx⟩
  obtain ⟨hfound, hne⟩ := ho x y symbol found hkind (hop.trans (by rw [hcause]))
  exact .inr ⟨y, hy, hop, hfound, hkind ▸ hne⟩

theorem sparesLeft_setOperation {program : Program} {settle : Settle} {ctx : Context} {left : Param}
    (hleft : (evaluate program settle ctx left).Yields fun v => v.kind = .collection)
    (additive : Bool) (right : Param) :
    SparesLeft program settle ctx (setOperation additive left right) left := by
  cases additive with
  | true => exact .of_spares rfl hleft Operator.union_spares
  | false => exact .of_spares rfl hleft Operator.difference_spares

/-! ### What the grammar says of the kinds -/

/-- The keys of the commands that are taken for a tier. -/
def Registry.tierKeys : List String :=
  ["SET-FOR-WORLD", "SET-FOR-PROGRAM", "UN-SET-FOR-WORLD", "UN-SET-FOR-PROGRAM"]

namespace Operand

/-- The kind of an operand is the static kind of its param. -/
def IsExact (registry : Registry) (o : Operand) : Prop := o.kind = .ofParam registry o.param

/-- **The exception**: a word whose form has targets was written with a tier in their place, and
the kind is still the one that the written word promises. -/
def IsRedirected (registry : Registry) (o : Operand) : Prop :=
  ∃ word signature c, registry.signature? word = some signature ∧
    (signature.form = .setFor ∨ signature.form = .unsetFor) ∧
    c.name ∈ Registry.tierKeys ∧ c.name ≠ word ∧ o = ⟨.command c, .ofCommand registry word⟩

end Operand

theorem ofParam_of_isCollection (registry : Registry) {p : Param} (h : p.isCollection = true) :
    StaticKind.ofParam registry p = .collection := by
  cases p <;> first | rfl | cases h

/-- The signature under which a command is read for a word: that of the word, or one that is taken
for a tier. -/
def Signature.LeadsTo (registry : Registry) (signature signed : Signature) : Prop :=
  signed = signature ∨ (signature.form = .setFor ∨ signature.form = .unsetFor) ∧
    ∃ key ∈ Registry.tierKeys, registry.signature? key = some signed

namespace Line

variable {line : Line}

theorem leadsTo_targetParams (nested : Level) {signature : Signature}
    (hform : signature.form = .setFor ∨ signature.form = .unsetFor) (setting : Bool)
    (ts : Tokens) :
    Reads (fun r => signature.LeadsTo line.registry r.1)
      (line.targetParams nested signature setting ts) := by
  unfold targetParams
  dsimp only
  cases htier : tierWord? ts with
  | none => exact reads_bind fun ⟨_, _⟩ _ => reads_bind fun ⟨_, _⟩ _ => reads_ok (.inl rfl)
  | some found =>
    obtain ⟨tier, ts'⟩ := found
    refine reads_bind fun redirected hredirected => reads_bind fun ⟨_, _⟩ _ => reads_ok ?_
    refine .inr ⟨hform, _, ?_, signature?_of_lookUp hredirected⟩
    rcases tierWord?_cases htier with rfl | rfl <;> cases setting <;> decide

theorem leadsTo_params (nested : Level) (signature : Signature) (ts : Tokens) :
    Reads (fun r => signature.LeadsTo line.registry r.1) (line.params nested signature ts) := by
  have hsame : ∀ (read : Except Fault (List Param × Tokens)),
      Reads (fun r : Signature × List Param => signature.LeadsTo line.registry r.1)
        (read >>= fun read => pure ((signature, read.1), read.2)) := fun read =>
    reads_bind fun ⟨_, _⟩ _ => reads_ok (.inl rfl)
  obtain ⟨name, kinds, returns, form⟩ := signature
  cases form with
  | setFor => exact leadsTo_targetParams nested (.inl rfl) true _
  | unsetFor => exact leadsTo_targetParams nested (.inr rfl) false _
  | _ => exact hsame _

/-- The command that is read for a word. -/
theorem leadsTo_commandOver (nested : Level) {t : Token} {word : String} (ht : t.kind = .word word)
    (rest : Tokens) :
    Reads (fun c => ∃ signature signed, line.registry.signature? word = some signature ∧
      signature.LeadsTo line.registry signed ∧ c.name = signed.name)
      (line.commandOver nested (t :: rest)) := by
  obtain ⟨kind, start, stop⟩ := t
  cases ht
  refine reads_bind fun ⟨name, ts'⟩ hname => reads_bind fun signature hsignature => ?_
  cases hname
  refine (leadsTo_params nested signature _).bind fun ⟨signed, params⟩ _ hsigned => ?_
  refine reads_bind fun c hc => reads_ok ?_
  unfold Command.ofParams at hc
  split at hc
  · cases hc
    exact ⟨signature, signed, signature?_of_lookUp hsignature, hsigned, rfl⟩
  · cases hc

/-- **The kind of a primary is the static kind of its param, or the one that was written before a
redirection.** -/
theorem reads_primaryOver_kind (hk : line.registry.Keyed) (n : Nat) (ts : Tokens) :
    Reads (fun o => o.IsExact line.registry ∨ o.IsRedirected line.registry)
      (line.primaryOver (line.level n) ts) := by
  unfold primaryOver
  split
  · exact reads_error _
  · next t rest =>
    split
    · refine reads_bind fun ⟨inner, ts'⟩ _ => ?_
      dsimp only
      split
      · exact reads_ok (.inl rfl)
      · exact reads_error _
    · have hn := line.closed_writes.follows_level n (rest.length + 1)
      have hliteral : Reads (fun p => p.isCollection = true)
          (collectionLiteral line (line.level n).primary .any rest) :=
        reads_of_follows (Correspondence.follows_collectionLiteral hn.primary .any rfl)
          fun _ _ h => h.2
      refine hliteral.bind fun literal _ h => reads_ok ?_
      exact .inl (ofParam_of_isCollection line.registry h).symm
    · split
      · exact reads_ok (.inl rfl)
      · exact reads_error _
    · exact reads_error _
    · exact reads_ok (.inl rfl)
    · exact reads_ok (.inl rfl)
    · next word hword =>
      unfold wordPrimary
      split
      · exact reads_ok (.inl rfl)
      · exact reads_ok (.inl rfl)
      · exact reads_ok (.inl rfl)
      · exact reads_ok (.inl rfl)
      · split
        · refine (leadsTo_commandOver (line.level n) hword rest).bind fun c _ hc => reads_ok ?_
          obtain ⟨signature, signed, hsignature, hleads, hname⟩ := hc
          by_cases hsame : c.name = word
          · exact .inl (by rw [← hsame]; rfl)
          · rcases hleads with rfl | ⟨hform, key, hkey, hsigned⟩
            · exact absurd (hname.trans (hk word _ hsignature)) hsame
            · have hckey : c.name = key := hname.trans (hk key signed hsigned)
              exact .inr ⟨word, signature, c, hsignature, hform, hckey ▸ hkey, hsame, rfl⟩
        · split
          · exact reads_error _
          · exact reads_ok (.inl rfl)

theorem reads_level_kind (hk : line.registry.Keyed) (n : Nat) (ts : Tokens) :
    Reads (fun o => o.IsExact line.registry ∨ o.IsRedirected line.registry)
      ((line.level n).primary ts) := by
  cases n with
  | zero => exact reads_error _
  | succ n => exact reads_primaryOver_kind hk n ts

/-- What an operator joins has its static kind. -/
theorem reads_foldStep_kind (primary : Tokens → Except Fault (Operand × Tokens)) (left : Operand)
    (fold : Fold) (ts : Tokens) :
    Reads (Operand.IsExact line.registry) (foldStep line primary left fold ts) := by
  cases fold with
  | math operator =>
    cases operator with
    | squared => exact reads_ok rfl
    | _ => exact reads_bind fun ⟨_, _⟩ _ => reads_ok rfl
  | concat => exact reads_bind fun ⟨_, _⟩ _ => reads_ok rfl
  | set additive =>
    refine reads_bind fun ⟨_, _⟩ _ => reads_ok ?_
    exact (ofParam_of_isCollection _ (isCollection_setOperation additive _ _)).symm
  | ambiguous operator column => exact reads_bind fun ⟨_, _⟩ _ => reads_ok rfl

theorem reads_valueExpr_kind (hk : line.registry.Keyed) (n : Nat) (reading : Reading)
    (ts : Tokens) :
    Reads (fun o => o.IsExact line.registry ∨ o.IsRedirected line.registry)
      (valueExpr line (line.level n).primary reading ts) :=
  (reads_level_kind hk n ts).bind fun _ ts' hleft =>
    reads_chain (fun left fold _ ts' _ _ =>
      (reads_foldStep_kind _ left fold ts').mono fun _ h => .inl h) _ hleft ts'

/-- An operator that is chosen for a known kind is the one for that kind. -/
theorem fold?_cases {reading : Reading} {left : Operand} {ts ts' : Tokens} {fold : Fold}
    (h : fold? reading left ts = some (fold, ts')) (hknown : left.kind ≠ .unknown) :
    (∃ operator, fold = .math operator ∧ left.kind = .number) ∨
      (fold = .concat ∧ left.kind = .text) ∨
      ∃ additive, fold = .set additive ∧ left.kind = .collection := by
  cases ts with
  | nil => cases h
  | cons t ts =>
    obtain ⟨sign, -, h⟩ := Option.bind_eq_some_iff.mp h
    obtain ⟨found, hfold, h⟩ := Option.bind_eq_some_iff.mp h
    cases h
    cases hkind : left.kind with
    | unknown => exact absurd hkind hknown
    | number | text | boolean | collection =>
      rw [hkind] at hfold
      cases sign <;> cases hfold <;> simp

end Line

/-- A value of a known static kind is of that kind. -/
theorem StaticKind.Admits.kind_eq {kind : ValueKind} {v : Value}
    (h : (StaticKind.ofValueKind kind).Admits v) (hknown : StaticKind.ofValueKind kind ≠ .unknown) :
    v.kind = kind := by
  rcases h with h | h
  · exact absurd h hknown
  · cases kind <;> cases hv : v.kind <;> simp_all [StaticKind.ofValueKind]

/-- **An operator that was chosen for a known kind finds no fault with its left operand.** -/
theorem foldStep_sparesLeft {program : Program} {settle : Settle} {ctx : Context} {line : Line}
    {primary : Tokens → Except Fault (Operand × Tokens)} {reading : Reading} {left : Operand}
    {fold : Fold} {ts ts' : Tokens}
    (hleft : (evaluate program settle ctx left.param).Yields left.kind.Admits)
    (hknown : left.kind ≠ .unknown) (hfold : fold? reading left ts = some (fold, ts')) :
    Reads (fun o => SparesLeft program settle ctx o.param left.param)
      (line.foldStep primary left fold ts') := by
  have hkind : ∀ kind, left.kind = .ofValueKind kind →
      (evaluate program settle ctx left.param).Yields fun v => v.kind = kind := by
    intro kind hk
    rw [hk] at hleft hknown
    exact hleft.mono fun h => h.kind_eq hknown
  rcases Line.fold?_cases hfold hknown with
    ⟨operator, rfl, hk⟩ | ⟨rfl, hk⟩ | ⟨additive, rfl, hk⟩
  · have hspares : ∀ right : Option Param,
        SparesLeft program settle ctx (.math operator left.param right) left.param := fun _ =>
      .of_spares rfl (hkind .number hk) (Operator.math_spares operator)
    cases operator with
    | squared => exact reads_ok (hspares none)
    | _ => exact reads_bind fun ⟨right, _⟩ _ => reads_ok (hspares (some right.param))
  · exact reads_bind fun ⟨right, _⟩ _ =>
      reads_ok (.of_spares rfl (hkind .text hk) Operator.concat_spares)
  · exact reads_bind fun ⟨right, _⟩ _ =>
      reads_ok (sparesLeft_setOperation (hkind .collection hk) additive right)

/-- **Static kinds are sound**, in every context and with any fuel, if the commands keep what their
signatures promise. The value of a param is of its static kind. The value of an operand is of the
kind the grammar gave it, unless the operand is a command that was redirected to a tier. What an
operator joins is of its kind as well, and if the operator was read behind an operand of a known
kind, whose values are of that kind, then it finds no fault with that operand; neither does a union
or difference in a slot for a collection. -/
theorem static_kinds_sound {program : Program} (hk : program.registry.Keyed)
    (ht : program.Truthful) {line : Line} (hline : line.registry = program.registry) (fuel : Nat)
    (ctx : Context) :
    (∀ p, (evaluate program (settle program fuel) ctx p).Yields
      (StaticKind.ofParam program.registry p).Admits) ∧
    (∀ n ts o rest, (line.level n).primary ts = .ok (o, rest) ∨
        (∃ reading, line.valueExpr (line.level n).primary reading ts = .ok (o, rest)) →
      (evaluate program (settle program fuel) ctx o.param).Yields o.kind.Admits ∨
        o.IsRedirected program.registry) ∧
    (∀ reading left ts fold ts' n o rest, fold? reading left ts = some (fold, ts') →
      line.foldStep (line.level n).primary left fold ts' = .ok (o, rest) →
        (evaluate program (settle program fuel) ctx o.param).Yields o.kind.Admits ∧
          (left.kind ≠ .unknown →
            (evaluate program (settle program fuel) ctx left.param).Yields left.kind.Admits →
              SparesLeft program (settle program fuel) ctx o.param left.param)) ∧
    (∀ additive left right, left.isCollection = true →
      SparesLeft program (settle program fuel) ctx (setOperation additive left right) left) := by
  have hadmits := evaluate_admits ht fuel ctx
  refine ⟨hadmits, fun n ts o rest ho => ?_, ?_, fun additive left right hleft => ?_⟩
  · have hkind : o.IsExact line.registry ∨ o.IsRedirected line.registry := by
      have hkeyed : line.registry.Keyed := hline ▸ hk
      rcases ho with ho | ⟨reading, ho⟩
      · exact Line.reads_level_kind hkeyed n ts o rest ho
      · exact Line.reads_valueExpr_kind hkeyed n reading ts o rest ho
    rw [hline] at hkind
    rcases hkind with hexact | hredirected
    · left
      rw [hexact]
      exact hadmits o.param
    · exact .inr hredirected
  · intro reading left ts fold ts' n o rest hfold ho
    refine ⟨?_, fun hknown hleft => foldStep_sparesLeft hleft hknown hfold o rest ho⟩
    have hexact : o.kind = .ofParam line.registry o.param :=
      Line.reads_foldStep_kind _ left fold ts' o rest ho
    rw [hexact, hline]
    exact hadmits o.param
  · have hcollection := hadmits left
    rw [ofParam_of_isCollection program.registry hleft] at hcollection
    have hkind : ∀ v, StaticKind.collection.Admits v → v.kind = .collection := fun v h =>
      StaticKind.Admits.kind_eq h (by decide)
    exact sparesLeft_setOperation (hcollection.mono fun h => hkind _ h) additive right

/-! ### Examples -/

/-- A command that counts its targets and promises a number. -/
def dropType : CommandType where
  signature :=
    { name := "DROP-FOR"
      params := [.collection .character, .name]
      returns := some .number
      form := .unsetFor }
  behaviour := .host .count

/-- A command that gives back its slot, in the place of one of the language. -/
def dropWorldType : CommandType where
  signature := { name := "UN-SET-FOR-WORLD", params := [.name], form := .unset }
  behaviour := .host .echo

/-- A program with both commands. -/
def dropProgram : Program where
  script := default
  registry := Registry.builtin.registerAll [dropType, dropWorldType]

theorem dropProgram_keyed : dropProgram.registry.Keyed :=
  Registry.keyed_registerAll Registry.keyed_builtin _

/-- The command that counts is the only one with a promise. -/
theorem dropProgram_returns {name : String} {type : CommandType} {kind : ValueKind}
    (htype : dropProgram.registry.get? name = some type)
    (hreturns : type.signature.returns = some kind) : type = dropType ∧ kind = .number := by
  have hnone : ∀ type ∈ Registry.builtinCommands, type.signature.returns = none := by decide
  rcases Registry.get?_registerAll htype with hbuiltin | ⟨hmem, -⟩
  · rw [hnone type (Registry.mem_of_builtin hbuiltin).1] at hreturns
    cases hreturns
  · rcases List.mem_pair.mp hmem with rfl | rfl
    · cases hreturns
      exact ⟨rfl, rfl⟩
    · cases hreturns

/-- The number of its targets, or a fault. -/
theorem yields_act_count (settle : Settle) (ctx : Context) (signature : Signature) :
    (ctx.act dropProgram settle signature .count).Yields
      fun o => ∃ n, o = .value (.number n) := by
  have hreply : (ctx.carryOut dropProgram settle signature HostAction.count).Yields
      fun reply => ∃ n, reply = .value (.number n) := by
    refine Run.yields_bind fun answer => ?_
    cases answer with
    | ok targets => exact Run.yields_pure ⟨_, rfl⟩
    | error f => exact Run.yields_fail f
  refine Run.yields_bind_of hreply fun reply hreply => ?_
  obtain ⟨n, rfl⟩ := hreply
  exact Run.yields_pure ⟨n, rfl⟩

theorem dropProgram_truthful : dropProgram.Truthful := by
  intro fuel ctx c signature kind hsignature hreturns
  obtain ⟨type, htype, rfl⟩ := Option.map_eq_some_iff.mp hsignature
  obtain ⟨rfl, rfl⟩ := dropProgram_returns htype hreturns
  cases fuel with
  | zero =>
    rintro r ⟨s, t, h⟩
    cases h
  | succ fuel =>
    have hexecute : (execute dropProgram (settle dropProgram fuel) fuel ctx c).Yields
        fun o => ∃ n, o = .value (.number n) := by
      unfold execute
      rw [htype]
      exact yields_act_count _ _ _
    refine Run.yields_bind_of hexecute fun o ho => ?_
    obtain ⟨n, rfl⟩ := ho
    rw [ultimate]
    exact Run.yields_pure fun v hv => by cases hv; rfl

/-- A line that is read under the commands of the program. -/
def dropLine : Line := ⟨dropProgram.registry, [], 0⟩

/-- The tokens of `DROP-FOR: [] : GOLD`. -/
def dropTokens : Tokens :=
  [⟨.word "DROP-FOR", 0, 8⟩, ⟨.symbol ':', 8, 9⟩, ⟨.symbol '[', 10, 11⟩, ⟨.symbol ']', 11, 12⟩,
    ⟨.symbol ':', 13, 14⟩, ⟨.word "GOLD", 15, 19⟩]

/-- The tokens of `DROP-FOR: WORLD : GOLD`. -/
def dropWorldTokens : Tokens :=
  [⟨.word "DROP-FOR", 0, 8⟩, ⟨.symbol ':', 8, 9⟩, ⟨.word "WORLD", 10, 15⟩, ⟨.symbol ':', 16, 17⟩,
    ⟨.word "GOLD", 18, 22⟩]

/-- What is read from `dropTokens`. -/
def dropOperand : Operand :=
  ⟨.command ⟨"DROP-FOR", [.collection .character false false [], .ofText "GOLD"], 0⟩, .number⟩

/-- The tokens of `+ LOOP-INDEX`. -/
def plusIndexTokens : Tokens := [⟨.symbol '+', 20, 21⟩, ⟨.word "LOOP-INDEX", 22, 32⟩]

/-- A sum with `LOOP-INDEX`. -/
def plusIndex (left : Operand) : Operand := ⟨.math .plus left.param (some .loopIndex), .number⟩

theorem static_kinds_sound_drop :
    (dropLine.level 7).primary dropTokens = .ok (dropOperand, []) ∧
    fold? .value dropOperand plusIndexTokens = some (.math .plus, plusIndexTokens.tail) ∧
    dropLine.foldStep (dropLine.level 7).primary dropOperand (.math .plus) plusIndexTokens.tail =
      .ok (plusIndex dropOperand, []) ∧
    ∀ ctx,
      (∀ v, (evaluate dropProgram (settle dropProgram 1) ctx dropOperand.param).Returns v →
        v.kind = .number) ∧
      SparesLeft dropProgram (settle dropProgram 1) ctx (plusIndex dropOperand).param
        dropOperand.param := by
  have hread : (dropLine.level 7).primary dropTokens = .ok (dropOperand, []) := rfl
  have hfold : fold? .value dropOperand plusIndexTokens =
      some (.math .plus, plusIndexTokens.tail) := rfl
  have hstep : dropLine.foldStep (dropLine.level 7).primary dropOperand (.math .plus)
      plusIndexTokens.tail = .ok (plusIndex dropOperand, []) := rfl
  refine ⟨hread, hfold, hstep, fun ctx => ?_⟩
  have hline : dropLine.registry = dropProgram.registry := rfl
  obtain ⟨-, hoperand, hjoined, -⟩ :=
    static_kinds_sound dropProgram_keyed dropProgram_truthful hline 1 ctx
  rcases hoperand 7 dropTokens dropOperand [] (.inl hread) with hkind | hredirected
  · have hnumber : (StaticKind.number : StaticKind) ≠ .unknown := by decide
    refine ⟨fun v hv => ?_, ?_⟩
    · have hadmits : (StaticKind.ofValueKind .number).Admits v := hkind v hv
      exact hadmits.kind_eq (by decide)
    · exact (hjoined _ _ _ _ _ 7 _ _ hfold hstep).2 hnumber hkind
  · obtain ⟨word, signature, c, -, -, hname, -, ho⟩ := hredirected
    obtain ⟨hc, -⟩ := Operand.mk.inj ho
    cases Param.command.inj hc
    have hcount : "DROP-FOR" ∉ Registry.tierKeys := by decide
    exact absurd hname hcount

/-- The operand that is read from `dropWorldTokens`. -/
def dropWorldOperand : Operand := ⟨.command ⟨"UN-SET-FOR-WORLD", [.ofText "GOLD"], 0⟩, .number⟩

/-- **A kind that is not kept.** The command that counts promises a number; written for the world it
turns into the one that gives back its slot, and the operand has a text. A sum behind it refuses
that text. -/
theorem not_static_kind_dropWorld :
    dropProgram.Truthful ∧
    (dropLine.level 6).primary dropWorldTokens = .ok (dropWorldOperand, []) ∧
    dropWorldOperand.kind = .number ∧
    (∀ ctx s, evaluate dropProgram (settle dropProgram 1) ctx dropWorldOperand.param s =
      .ok (.text "GOLD") s) ∧
    ∀ ctx v, ¬ SparesLeft dropProgram (settle dropProgram 1) ctx
      (.math .plus dropWorldOperand.param (some (.value v))) dropWorldOperand.param := by
  have htext : ∀ ctx s, evaluate dropProgram (settle dropProgram 1) ctx dropWorldOperand.param s =
      .ok (.text "GOLD") s := fun _ _ => rfl
  refine ⟨dropProgram_truthful, rfl, rfl, htext, fun ctx v hspares => ?_⟩
  obtain ⟨operator, right, hnode, hspares⟩ := hspares
  cases hnode
  have hrefused : evaluate dropProgram (settle dropProgram 1) ctx
      (.math .plus dropWorldOperand.param (some (.value v))) default =
        .error (.fault (.on ctx.line (.unsupportedOperator "+" .text))) default := rfl
  rcases hspares _ _ "+" .text _ hrefused rfl with hleft | ⟨x, s, hx, hright | ⟨y, -, -, -, hne⟩⟩
  · cases (htext ctx default).symm.trans hleft
  · cases hright
  · cases (htext ctx default).symm.trans hx
    exact hne rfl

end StageScript
