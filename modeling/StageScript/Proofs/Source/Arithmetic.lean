import StageScript.Proofs.Grammar.Slots
import StageScript.Proofs.Source.OneLine
import StageScript.Proofs.Token.Written

/-!
# Arithmetic from text to value

A calculation is a number with steps behind it: an operator with another number, or `SQUARED`.
Written behind `RETURN:` with blanks between its tokens, it compiles, and the script gives what the
steps make of the number one after the other, whatever operators they are
(`calculation_folds_left`). So there is no precedence, and a minus sign is part of a number just
where it stands directly before its digits.

The proof follows the text. Each piece is read as its token (`Piece.isRead`), the steps are read
one by one onto the operand in front of them (`Calculation.chain_steps`), and each step evaluates to
the operator applied to the value so far (`Step.denotes`).
-/

namespace StageScript

open Text Token

/-! ### Calculations -/

/-- The symbols that join numbers. -/
def joinerSymbols : List (Char × MathOperator) :=
  [('+', .plus), ('-', .minus), ('*', .times), ('/', .divide), ('^', .power), ('%', .modulo),
    ('&', .plus)]

/-- The words that join numbers. -/
def joinerWords : List (String × MathOperator) :=
  [("PLUS", .plus), ("MINUS", .minus), ("TIMES", .times), ("X", .times), ("DIVIDED-BY", .divide),
    ("TO-THE-POWER-OF", .power), ("MODULO", .modulo), ("AND", .plus)]

/-- What joins two numbers. -/
inductive Joiner where
  | symbol (c : Char) (operator : MathOperator) (listed : (c, operator) ∈ joinerSymbols)
  | word (s : String) (operator : MathOperator) (listed : (s, operator) ∈ joinerWords)

namespace Joiner

def text : Joiner → List Char
  | .symbol c _ _ => [c]
  | .word s _ _ => s.toList

def kind : Joiner → TokenKind
  | .symbol c _ _ => .symbol c
  | .word s _ _ => .word s

def operator : Joiner → MathOperator
  | .symbol _ operator _ => operator
  | .word _ operator _ => operator

end Joiner

/-- What stands between two blanks. -/
inductive Piece where
  | number (n : Numeral)
  | joiner (j : Joiner)
  | squared

namespace Piece

def text : Piece → List Char
  | .number n => n.text
  | .joiner j => j.text
  | .squared => "SQUARED".toList

/-- The tokens of the piece. -/
def Spells : Piece → Tokens → Prop
  | .number n, ts => Literal ts (.ofFloat n.value)
  | .joiner j, ts => ts.map (·.kind) = [j.kind]
  | .squared, ts => ts.map (·.kind) = [.word "SQUARED"]

end Piece

/-- A step of a calculation. -/
inductive Step where
  | join (j : Joiner) (n : Numeral)
  | squared

namespace Step

def pieces : Step → List Piece
  | .join j n => [.joiner j, .number n]
  | .squared => [.squared]

/-- What the step makes of a number. -/
def apply (x : Float) : Step → Float
  | .join j n => j.operator.apply x n.value
  | .squared => MathOperator.squared.apply x 0.0

/-- What the step is read as behind a param. -/
def param (p : Param) : Step → Param
  | .join j n => .math j.operator p (some (.ofFloat n.value))
  | .squared => .math .squared p none

end Step

/-- **A number and steps behind it.** -/
structure Calculation where
  first : Numeral
  steps : List Step := []

namespace Calculation

def pieces (c : Calculation) : List Piece := .number c.first :: c.steps.flatMap Step.pieces

/-- **The value: the steps are done one after the other.** -/
def value (c : Calculation) : Float := c.steps.foldl Step.apply c.first.value

/-- What the calculation is read as. -/
def param (c : Calculation) : Param := c.steps.foldl Step.param (.ofFloat c.first.value)

end Calculation

/-- Texts one after the other, each behind one blank or more. -/
inductive Spaced : List (List Char) → List Char → Prop
  | nil : Spaced [] []
  | cons (blanks : Nat) (text : List Char) {texts : List (List Char)} {rest : List Char}
    (h : Spaced texts rest) :
    Spaced (text :: texts) (List.replicate (blanks + 1) ' ' ++ (text ++ rest))

/-! ### Tokens -/

theorem Joiner.isRead (j : Joiner) : IsRead j.text fun ts => ts.map (·.kind) = [j.kind] := by
  cases j with
  | symbol c operator listed =>
    have hall : ∀ e ∈ joinerSymbols, e.1 ∈ symbols := by decide
    refine (IsRead.symbol (hall _ listed) (IsRead.nil (P := fun ts => ts = []) rfl)).mono ?_
    rintro ts ⟨a, b, us, rfl, rfl⟩
    rfl
  | word s operator listed =>
    have hall : ∀ e ∈ joinerWords, IsWord e.1.toList := by decide +kernel
    refine (isRead_word (hall _ listed)).mono ?_
    rintro ts ⟨a, b, rfl⟩
    rfl

theorem Piece.isRead (p : Piece) : IsRead p.text p.Spells := by
  cases p with
  | number n => exact n.isRead
  | joiner j => exact j.isRead
  | squared =>
    have hword : IsWord "SQUARED".toList := by decide +kernel
    refine (isRead_word hword).mono ?_
    rintro ts ⟨a, b, rfl⟩
    rfl

theorem Spaced.ends {texts : List (List Char)} {text : List Char} (h : Spaced texts text) :
    Ends text := by
  cases h with
  | nil => exact .nil
  | cons => exact .cons (by decide) _

/-- Texts that are read as tokens each are read as these tokens in their order. -/
theorem isRead_of_spaced {α : Type} {textOf : α → List Char} {P : α → Tokens → Prop}
    (hread : ∀ a, IsRead (textOf a) (P a)) {as : List α} {text : List Char}
    (h : Spaced (as.map textOf) text) :
    IsRead text fun ts =>
      ∃ groups : List Tokens, ts = groups.flatten ∧ List.Forall₂ P as groups := by
  induction as generalizing text with
  | nil =>
    cases h
    exact IsRead.nil ⟨[], rfl, .nil⟩
  | cons a as ih =>
    cases h with
    | cons blanks _ hrest =>
      have hpieces := (hread a).append (ih hrest) hrest.ends
      refine (IsRead.blanks (blanks + 1) hpieces).mono ?_
      rintro ts ⟨us, vs, rfl, hus, groups, rfl, hgroups⟩
      exact ⟨us :: groups, rfl, .cons hus hgroups⟩

/-! ### Reading the steps -/

/-- An operator behind a number means the same at every column. -/
theorem Sign.fold?_number (sign : Sign) (column : Nat) :
    sign.fold? .number column = sign.fold? .number 0 := by
  cases sign <;> rfl

theorem Joiner.sign_kind (j : Joiner) : ∃ sign, Sign.ofToken? .value j.kind = some sign ∧
    sign.fold? .number 0 = some (.math j.operator) := by
  cases j with
  | symbol c operator listed =>
    have hall : ∀ e ∈ joinerSymbols, (Sign.ofSymbol? .value e.1).bind (·.fold? .number 0) =
        some (.math e.2) := by decide
    exact Option.bind_eq_some_iff.mp (hall _ listed)
  | word s operator listed =>
    have hall : ∀ e ∈ joinerWords, (Sign.ofWord? .value e.1).bind (·.fold? .number 0) =
        some (.math e.2) := by decide
    exact Option.bind_eq_some_iff.mp (hall _ listed)

theorem Joiner.isUnary_operator (j : Joiner) : j.operator.isUnary = false := by
  cases j with
  | symbol c operator listed =>
    have hall : ∀ e ∈ joinerSymbols, e.2.isUnary = false := by decide
    exact hall _ listed
  | word s operator listed =>
    have hall : ∀ e ∈ joinerWords, e.2.isUnary = false := by decide
    exact hall _ listed

theorem Line.foldStep_math {line : Line} {primary : Tokens → Except Fault (Operand × Tokens)}
    {left right : Operand} {operator : MathOperator} {ts rest : Tokens}
    (hoperator : operator.isUnary = false) (hright : primary ts = .ok (right, rest)) :
    line.foldStep primary left (.math operator) ts =
      .ok (⟨.math operator left.param (some right.param), .number⟩, rest) := by
  cases operator with
  | squared => cases hoperator
  | _ =>
    unfold Line.foldStep
    rw [hright]
    rfl

namespace Calculation

variable (line : Line) (n : Nat)

/-- **The steps are read onto the operand in front of them.** By induction on the steps. -/
theorem chain_steps {steps : List Step} {groups : List Tokens}
    (h : List.Forall₂ Piece.Spells (steps.flatMap Step.pieces) groups) {budget : Nat}
    (hbudget : groups.flatten.length ≤ budget) (left : Param) :
    chain (fold? .value) (line.foldStep (line.level (n + 1)).primary) budget ⟨left, .number⟩
        groups.flatten = .ok (⟨steps.foldl Step.param left, .number⟩, []) := by
  induction steps generalizing groups budget left with
  | nil =>
    cases h
    exact chain_of_none rfl budget
  | cons step steps ih =>
    cases step with
    | join j operand =>
      obtain ⟨joiner, groups, hjoiner, hbehind, rfl⟩ := List.forall₂_cons_left_iff.mp h
      obtain ⟨number, groups, hnumber, hrest, rfl⟩ := List.forall₂_cons_left_iff.mp hbehind
      obtain ⟨t, rfl, ht⟩ := List.map_eq_singleton_iff.mp hjoiner
      obtain ⟨budget, rfl⟩ : ∃ k, budget = k + 1 := ⟨budget - 1, by simp at hbudget; omega⟩
      obtain ⟨sign, hsign, hfold⟩ := j.sign_kind
      have hoperator : fold? .value ⟨left, .number⟩ (t :: (number ++ groups.flatten)) =
          some (.math j.operator, number ++ groups.flatten) :=
        fold?_of_sign (by rw [ht, hsign]) (by rw [Sign.fold?_number, hfold])
      have hright := Literal.primary_of_ne hnumber nofun line n groups.flatten
      have hlength : groups.flatten.length ≤ budget := by
        simp only [List.flatten_cons, List.length_append, List.length_singleton] at hbudget
        omega
      exact (chain_of_some hoperator (Line.foldStep_math j.isUnary_operator hright)).trans
        (ih hrest hlength _)
    | squared =>
      obtain ⟨squared, groups, hsquared, hrest, rfl⟩ := List.forall₂_cons_left_iff.mp h
      obtain ⟨t, rfl, ht⟩ := List.map_eq_singleton_iff.mp hsquared
      obtain ⟨budget, rfl⟩ : ∃ k, budget = k + 1 := ⟨budget - 1, by simp at hbudget; omega⟩
      have hsign : Sign.ofToken? .value t.kind = some (.math .squared) := by
        rw [ht]
        rfl
      have hoperator : fold? .value ⟨left, .number⟩ (t :: groups.flatten) =
          some (.math .squared, groups.flatten) := fold?_of_sign hsign rfl
      have hlength : groups.flatten.length ≤ budget := by
        simp only [List.flatten_cons, List.length_append, List.length_singleton] at hbudget
        omega
      exact (chain_of_some hoperator rfl).trans (ih hrest hlength _)

/-- A slot for any value reads the calculation. -/
theorem valueSlot_eq {c : Calculation} {groups : List Tokens}
    (h : List.Forall₂ Piece.Spells c.pieces groups) :
    line.valueSlot (line.level (n + 1)).primary groups.flatten = .ok (c.param, []) := by
  obtain ⟨number, groups, hfirst, hsteps, rfl⟩ := List.forall₂_cons_left_iff.mp h
  have hprimary := Literal.primary_of_ne hfirst nofun line n groups.flatten
  have hvalue : line.valueExpr (line.level (n + 1)).primary .value (number ++ groups.flatten) =
      .ok (⟨c.param, .number⟩, []) := by
    unfold Line.valueExpr
    rw [hprimary]
    exact chain_steps line n hsteps (Nat.le_refl _) _
  have hstart := Literal.startsCondition_of_ne hfirst nofun groups.flatten
  show line.valueSlot _ (number ++ groups.flatten) = _
  unfold Line.valueSlot
  rw [hstart, if_neg Bool.false_ne_true, hvalue]
  rfl

end Calculation

/-! ### Evaluating the steps -/

/-- **A step evaluates to what it makes of the number in front of it.** -/
theorem Step.denotes (step : Step) {p : Param} {x : Float} (h : p.Denotes (.ofFloat x)) :
    (step.param p).Denotes (.ofFloat (step.apply x)) := by
  cases step with
  | join j n =>
    refine ⟨rfl, fun program settle ctx s => ?_⟩
    have hmath : Operator.math j.operator (.ofFloat x) (.ofFloat n.value) =
        .ok (.ofFloat (j.operator.apply x n.value)) := if_neg (by simp [j.isUnary_operator])
    simp only [Step.param, evaluate]
    rw [Run.bind_of_ok (h.evaluate program settle ctx s)]
    simp only [evaluateOption, Param.ofFloat, evaluate, pure_bind]
    rw [hmath]
    rfl
  | squared =>
    refine ⟨rfl, fun program settle ctx s => ?_⟩
    simp only [Step.param, evaluate]
    rw [Run.bind_of_ok (h.evaluate program settle ctx s)]
    rfl

theorem Calculation.denotes (c : Calculation) : c.param.Denotes (.ofFloat c.value) := by
  have hsteps : ∀ (steps : List Step) (p : Param) (x : Float), p.Denotes (.ofFloat x) →
      (steps.foldl Step.param p).Denotes (.ofFloat (steps.foldl Step.apply x)) := by
    intro steps
    induction steps with
    | nil => exact fun p x h => h
    | cons step steps ih => exact fun p x h => ih _ _ (step.denotes h)
  exact hsteps c.steps _ _ (Param.denotes_value _)

/-! ### The line -/

namespace Calculation

/-- The line that returns what is written behind it. -/
def returnLine (text : List Char) : List Char := "RETURN:".toList ++ text

theorem parse_returnLine {line : Line}
    (hreturn : line.registry.signature? "RETURN" = some returnType.signature) {c : Calculation}
    {text : List Char} (htext : Spaced (c.pieces.map Piece.text) text)
    (hline : line.text = returnLine text) :
    line.parse = .ok ⟨"RETURN", [c.param], line.number⟩ := by
  have hword : IsWord "RETURN".toList := by decide +kernel
  have hread := (isRead_word hword).append
    (IsRead.symbol (c := ':') (by decide) (isRead_of_spaced Piece.isRead htext))
    (.cons (by decide) _)
  change IsRead (returnLine text) _ at hread
  rw [← hline] at hread
  obtain ⟨tokens, ⟨_, _, rfl, ⟨a, b, rfl⟩, d, e, _, rfl, groups, rfl, hgroups⟩, htokens⟩ :=
    hread.ofLine line.number
  have hslot := valueSlot_eq line (groups.flatten.length + 1) hgroups
  have hstart : Tokens.atParamEnd groups.flatten = false := by
    obtain ⟨first, groups, hfirst, -, rfl⟩ := List.forall₂_cons_left_iff.mp hgroups
    exact Literal.atParamEnd hfirst _
  have hparams : line.standardParams (line.level (groups.flatten.length + 2)) returnType.signature
      [.any] (⟨.symbol ':', d, e⟩ :: groups.flatten) = .ok ([c.param], []) :=
    Line.standardParams_cons nofun hstart hslot rfl
  refine Line.parse_of_commandOver htokens ?_
  exact Line.commandOver_standard hreturn (.inl rfl) hparams rfl a b

end Calculation

/-! ### The script -/

theorem isPlain_of_isNumberChar {c : Char} (h : isNumberChar c = true) : isPlain c = true := by
  have hc : c.isDigit = true ∨ c = '.' := by simpa [isNumberChar] using h
  rcases hc with hc | rfl
  · exact of_ascii (P := fun c => c.isDigit = true → isPlain c = true) (by decide +kernel)
      (isDigit_ascii hc) hc
  · decide

theorem Piece.isPlain_text (p : Piece) : ∀ c ∈ p.text, isPlain c = true := by
  cases p with
  | number n =>
    obtain ⟨negative, digits, hdigits⟩ := n
    have hplain : ∀ c ∈ digits, isPlain c = true := fun c hc =>
      isPlain_of_isNumberChar (List.all_eq_true.mp hdigits.goesOn c hc)
    cases negative with
    | false => exact hplain
    | true => exact List.forall_mem_cons.mpr ⟨by decide, hplain⟩
  | joiner j =>
    cases j with
    | symbol c operator listed =>
      have hall : ∀ e ∈ joinerSymbols, isPlain e.1 = true := by decide +kernel
      exact List.forall_mem_singleton.mpr (hall _ listed)
    | word s operator listed =>
      have hall : ∀ e ∈ joinerWords, e.1.toList.all isPlain = true := by decide +kernel
      exact List.all_eq_true.mp (hall _ listed)
  | squared =>
    have hall : "SQUARED".toList.all isPlain = true := by decide +kernel
    exact List.all_eq_true.mp hall

theorem Spaced.isPlain {texts : List (List Char)} {text : List Char} (h : Spaced texts text)
    (hall : ∀ t ∈ texts, ∀ c ∈ t, isPlain c = true) : ∀ c ∈ text, isPlain c = true := by
  induction h with
  | nil => nofun
  | cons blanks t h ih =>
    obtain ⟨ht, hrest⟩ := List.forall_mem_cons.mp hall
    intro c hc
    rcases List.mem_append.mp hc with hc | hc
    · rw [List.eq_of_mem_replicate hc]
      decide
    · rcases List.mem_append.mp hc with hc | hc
      · exact ht c hc
      · exact ih hrest c hc

theorem Calculation.isPlain_returnLine {c : Calculation} {text : List Char}
    (htext : Spaced (c.pieces.map Piece.text) text) : ∀ d ∈ returnLine text, isPlain d = true := by
  have hall : "RETURN:".toList.all isPlain = true := by decide +kernel
  have hreturn : ∀ d ∈ "RETURN:".toList, isPlain d = true := List.all_eq_true.mp hall
  have hbehind := htext.isPlain (List.forall_mem_map.mpr fun p _ => p.isPlain_text)
  exact fun d hd => (List.mem_append.mp hd).elim (hreturn d) (hbehind d)

/-- **Arithmetic folds from the left, from the text to the value.** The line that returns a
calculation compiles, in any registry with the command `RETURN`; and every run of the script, once
the names of the host are set, gives what the steps make of the first number one after the other,
and changes nothing. Without names of the host there is always a result, and the run has made its
own scope, nothing else. -/
theorem calculation_folds_left (c : Calculation) {text : List Char}
    (htext : Spaced (c.pieces.map Piece.text) text) {registry : Registry}
    (hreturn : registry.get? "RETURN" = some returnType) {name : String}
    (hname : Sources.isPreStart name = false) :
    ∃ script, Script.compile registry
        ⟨[(name, String.ofList (Calculation.returnLine text))]⟩ = .ok script ∧
      ∀ program : Program, program.script = script → program.registry = registry →
        ∀ request, program.run request = (do
            program.setUp request
            return some (.ofFloat c.value)) ∧
          (request.bindings.entries = [] → ∀ s, program.run request s =
            .ok (some (.ofFloat c.value)) { s with memory := s.memory.newScope.2 }) := by
  have hsignature : registry.signature? "RETURN" = some returnType.signature := by
    unfold Registry.signature?
    rw [hreturn]
    rfl
  have hline : Script.compileLine registry 0 (Calculation.returnLine text) =
      .ok ⟨"RETURN", [c.param], 0⟩ :=
    Script.compileLine_eq_ok_iff.mpr (Calculation.parse_returnLine hsignature htext rfl)
  obtain ⟨script, hcompile, hscript⟩ :=
    Script.exists_oneLine (Calculation.isPlain_returnLine htext) rfl rfl hline hname
  refine ⟨script, hcompile, ?_⟩
  rintro program rfl rfl request
  have hrun : program.run request = (do
      program.setUp request
      return some (.ofFloat c.value)) := by
    refine Program.run_of_returnValue hscript rfl (fun fuel ctx => ?_) request
    have hvalue : evaluate program (settle program fuel) ctx c.param = pure (.ofFloat c.value) :=
      funext fun s => c.denotes.evaluate _ _ _ s
    rw [settle_return hreturn, hvalue]
    rfl
  refine ⟨hrun, fun hbindings s => ?_⟩
  rw [hrun, Run.bind_of_ok (Program.setUp_of_no_bindings hbindings s)]
  rfl

/-- The calculation `2 + 3 TIMES 4.5 SQUARED - -6`. -/
def mixedCalculation : Calculation where
  first := ⟨false, ['2'], by decide⟩
  steps := [.join (.symbol '+' .plus (.head _)) ⟨false, ['3'], by decide⟩,
    .join (.word "TIMES" .times (.tail _ (.tail _ (.head _)))) ⟨false, ['4', '.', '5'], by decide⟩,
    .squared, .join (.symbol '-' .minus (.tail _ (.head _))) ⟨true, ['6'], by decide⟩]

theorem mixedCalculation_folds_left : ∃ script,
    Script.compile Registry.builtin
        ⟨[("main", "RETURN: 2 + 3 TIMES 4.5 SQUARED - -6")]⟩ = .ok script ∧
      (Program.mk script Registry.builtin {} {}).run default {} =
        .ok (some (.ofFloat (
          let sum := literalValue ['2'] + literalValue ['3']
          let product := sum * literalValue ['4', '.', '5']
          product * product - -literalValue ['6'])))
          { memory := ({} : Memory).newScope.2 } := by
  have htext : Spaced (mixedCalculation.pieces.map Piece.text)
      " 2 + 3 TIMES 4.5 SQUARED - -6".toList :=
    .cons 0 _ (.cons 0 _ (.cons 0 _ (.cons 0 _ (.cons 0 _ (.cons 0 _ (.cons 0 _
      (.cons 0 _ .nil)))))))
  have hreturn : Registry.builtin.get? "RETURN" = some returnType := rfl
  have hname : Sources.isPreStart "main" = false := by decide
  obtain ⟨script, hcompile, hrun⟩ :=
    calculation_folds_left mixedCalculation htext hreturn hname
  exact ⟨script, hcompile, (hrun ⟨script, Registry.builtin, {}, {}⟩ rfl rfl default).2 rfl {}⟩

end StageScript
