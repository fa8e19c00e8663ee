import StageScript.Proofs.Engine.Parentheses
import StageScript.Proofs.Source.Jump

/-!
# Commands from their slots

What a command is read as, once it is known what its slots are read as. A slot ends before a colon
or with its line, and a literal is read by a slot of any kind up to there.
-/

namespace StageScript

/-- What a slot for a collection holds if a literal of the value is written there. -/
def Param.collectionOf (element : ElementKind) : Value → Param
  | .collection _ items => .collection element false false (Param.ofLiterals items)
  | v => bareCollection element (.value v)

/-- A literal is not the end of a slot. -/
theorem Literal.atParamEnd {lit : Tokens} {v : Value} (h : Literal lit v) (rest : Tokens) :
    Tokens.atParamEnd (lit ++ rest) = false := by
  cases h <;> rfl

/-- What a literal is read as is no condition. -/
theorem Param.isCondition_ofLiteral (v : Value) : (Param.ofLiteral v).isCondition = false := by
  cases v <;> rfl

/-- A literal is read as an operand of a slot for a collection. -/
theorem Literal.collectionOperand_eq (line : Line) {lit : Tokens} {v : Value} (h : Literal lit v)
    (element : ElementKind) {n : Nat} (hn : lit.length ≤ n) (rest : Tokens) :
    line.collectionOperand (line.level n).primary element (lit ++ rest) =
      .ok (.collectionOf element v, rest) := by
  obtain ⟨n, rfl⟩ : ∃ k, n = k + 1 := by
    cases n with
    | zero => cases h <;> simp at hn
    | succ n => exact ⟨n, rfl⟩
  have hbare (hv : v.kind ≠ .collection)
      (hopen : Tokens.eat? (·.isSymbol '[') (lit ++ rest) = none) :
      line.collectionOperand (line.level (n + 1)).primary element (lit ++ rest) =
        .ok (bareCollection element (.value v), rest) := by
    unfold Line.collectionOperand
    simp only [hopen, h.primary_of_ne hv line n rest, bind, Except.bind, pure, Except.pure]
  cases h with
  | number | negative | text | isTrue | isFalse => exact hbare (by rintro ⟨⟩) rfl
  | empty a b c d => 
    exact line.collectionLiteral_empty (line.level (n + 1)).primary element c d rest
  | @collection a b c d items vs h =>
    simp only [List.length_cons, List.length_append] at hn
    have hbudget : items.length ≤ (items ++ ⟨.symbol ']', c, d⟩ :: rest).length := by
      rw [List.length_append]
      omega
    have hitems := h.separated_eq line (n + 1) ⟨.symbol ']', c, d⟩ rest _ rfl (by omega) hbudget
    rw [List.cons_append, List.append_assoc]
    exact h.collectionLiteral_eq hitems element

namespace Line

variable {line : Line} {primary : Tokens → Except Fault (Operand × Tokens)} {ts rest : Tokens}
  {o : Operand}

/-! ### Slots of one operand -/

theorem valueSlot_of_primary (hnot : ts.nextIs isNot = false)
    (hprimary : primary ts = .ok (o, rest)) (hrest : rest.atParamEnd = true) :
    line.valueSlot primary ts = .ok (o.param, rest) := by
  have hdisjunction : line.disjunction primary ts = .ok (o.param, rest) :=
    disjunction_of_primary hnot hprimary hrest
  refine valueSlot_of_disjunction hdisjunction ?_
  have hvalue : line.valueExpr primary .logical ts = .ok (o, rest) := by
    unfold valueExpr
    rw [hprimary]
    exact chain_of_none (fold?_eq_none (nextIs_of_atParamEnd hrest (by decide))) _
  unfold opensWithJoin
  rw [hvalue]
  simp [nextIs_of_atParamEnd hrest (p := isAnd) (by decide)]

theorem conditionSlot_of_primary (hnot : ts.nextIs isNot = false)
    (hprimary : primary ts = .ok (o, rest)) (ho : o.param.isCondition = false)
    (hrest : rest.atParamEnd = true) :
    line.conditionSlot primary ts = .ok (.condition .identity o.param none, rest) :=
  conditionSlot_eq_ok.mpr ⟨o.param, disjunction_of_primary hnot hprimary hrest, by simp [ho]⟩

theorem collectionSlot_of_operand {element : ElementKind} {p : Param}
    (hoperand : line.collectionOperand primary element ts = .ok (p, rest))
    (hrest : rest.atParamEnd = true) : line.collectionSlot primary element ts = .ok (p, rest) := by
  have hoperator : setOperator? p rest = none := by
    have hsign := nextIs_of_atParamEnd (p := fun t => (setSign? t).isSome) hrest (by decide)
    cases rest with
    | nil => rfl
    | cons t rest =>
      have ht : setSign? t.kind = none := by simpa [Tokens.nextIs] using hsign
      simp [setOperator?, ht]
  unfold collectionSlot
  rw [hoperand]
  exact chain_of_none hoperator _

/-! ### Commands -/

variable {nested : Level} {signature : Signature} {name : String} {kind : ParamKind}
  {kinds : List ParamKind} {p : Param} {ps : List Param} {rest' : Tokens}

theorem standardParams_cons (hkind : kind ≠ .line)
    (hstart : (ts.skipSymbol ':').atParamEnd = false)
    (hslot : line.slot nested kind (ts.skipSymbol ':') = .ok (p, rest))
    (hrest : line.standardParams nested signature kinds rest = .ok (ps, rest')) :
    line.standardParams nested signature (kind :: kinds) ts = .ok (p :: ps, rest') := by
  cases kind with
  | line => exact absurd rfl hkind
  | _ =>
    unfold standardParams
    dsimp only
    rw [hstart]
    simp only [hslot, hrest, bind, Except.bind, pure, Except.pure, Bool.false_eq_true, if_false]

theorem commandOver_of_params (hname : line.registry.signature? name = some signature)
    (hparams : line.params nested signature ts = .ok ((signature, ps), rest))
    (hlength : ps.length = signature.params.length) (a b : Nat) :
    line.commandOver nested (⟨.word name, a, b⟩ :: ts) =
      .ok (⟨signature.name, ps, line.number⟩, rest) := by
  have hlook : line.lookUp name = .ok signature := by
    unfold lookUp
    rw [hname]
  unfold commandOver
  simp only [word, hlook, hparams, bind, Except.bind, Command.ofParams, hlength, if_true]
  rfl

/-- A command with one slot after the other. -/
theorem commandOver_standard (hname : line.registry.signature? name = some signature)
    (hform : signature.form = .standard ∨ signature.form = .goTo)
    (hparams : line.standardParams nested signature signature.params ts = .ok (ps, rest))
    (hlength : ps.length = signature.params.length) (a b : Nat) :
    line.commandOver nested (⟨.word name, a, b⟩ :: ts) =
      .ok (⟨signature.name, ps, line.number⟩, rest) := by
  refine commandOver_of_params hname ?_ hlength a b
  unfold params
  rcases hform with hform | hform <;> rw [hform] <;> dsimp only <;> rw [hparams] <;> rfl

/-- A line that is one command. -/
theorem parse_of_commandOver {tokens : Tokens} {c : Command}
    (htokens : Token.ofLine line.number line.text = .ok tokens)
    (hcommand : line.commandOver (line.level tokens.length) tokens = .ok (c, [])) :
    line.parse = .ok c := by
  unfold parse
  rw [htokens]
  exact command_eq_ok_iff.mpr ⟨[], hcommand, rfl⟩

end Line

end StageScript
