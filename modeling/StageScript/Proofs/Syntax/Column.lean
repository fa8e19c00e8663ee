import StageScript.Grammar.Operand
import StageScript.Syntax.Column

/-!
# What columns leave open

Two params with the same unplaced form differ in nothing but where their operators stand; in
particular they have the same shape, name the same variables and commands, and have the same static
kind.
-/

namespace StageScript

theorem unplacedItems_eq (ps : List Param) : unplacedItems ps = ps.map Param.unplaced := by
  induction ps with
  | nil => rfl
  | cons p ps ih => rw [unplacedItems, ih, List.map_cons]

theorem unplacedBindings_eq (bs : List (String × Param)) :
    unplacedBindings bs = bs.map unplacedBinding := by
  induction bs with
  | nil => rfl
  | cons b bs ih => rw [unplacedBindings, ih, List.map_cons]

namespace Param

variable (p : Param)

@[simp] theorem variableName?_unplaced : p.unplaced.variableName? = p.variableName? := by
  cases p <;> simp only [unplaced] <;> rfl

@[simp] theorem literalText?_unplaced : p.unplaced.literalText? = p.literalText? := by
  cases p <;> simp only [unplaced] <;> rfl

@[simp] theorem isCondition_unplaced : p.unplaced.isCondition = p.isCondition := by
  cases p <;> simp only [unplaced] <;> rfl

@[simp] theorem command?_unplaced : p.unplaced.command? = p.command?.map Command.unplaced := by
  cases p <;> simp only [unplaced] <;> rfl

end Param

namespace Command

variable (c : Command)

@[simp] theorem name_unplaced : c.unplaced.name = c.name := by
  cases c
  simp only [unplaced]

@[simp] theorem param_unplaced (index : Nat) :
    c.unplaced.param index = (c.param index).unplaced := by
  cases c with
  | mk name params line =>
    simp only [unplaced, unplacedItems_eq, param, List.getD_eq_getElem?_getD, List.getElem?_map]
    cases params[index]? <;> rfl

end Command

/-! ### Parts of params -/

theorem unplacedOption_eq (p : Option Param) : unplacedOption p = p.map Param.unplaced := by
  cases p <;> rfl

theorem Param.parts_unplaced (p : Param) : p.unplaced.parts = p.parts.map Param.unplaced := by
  cases p with
  | bindings list =>
    simp only [unplaced, parts, unplacedBindings_eq, List.map_map]
    refine List.map_congr_left fun ⟨name, p⟩ _ => ?_
    simp only [Function.comp, unplacedBinding]
  | collection element bare all items => simp only [unplaced, parts, unplacedItems_eq]
  | math operator left right | condition comparator left right =>
    cases right <;> simp only [unplaced, parts, unplacedOption_eq, Option.map] <;> rfl
  | _ =>
    simp only [unplaced, parts]
    rfl

/-- **A path leads to the same place, however the operators stand.** -/
theorem Param.part_unplaced (p : Param) (path : List Nat) :
    p.unplaced.part path = (p.part path).unplaced := by
  induction path generalizing p with
  | nil => rfl
  | cons index path ih =>
    have hstep : p.unplaced.parts.getD index .absent = (p.parts.getD index .absent).unplaced := by
      simp only [parts_unplaced, List.getD_eq_getElem?_getD, List.getElem?_map]
      cases p.parts[index]? <;> rfl
    calc p.unplaced.part (index :: path)
        = (p.parts.getD index .absent).unplaced.part path := congrArg (·.part path) hstep
      _ = ((p.parts.getD index .absent).part path).unplaced := ih _

/-! ### What has no columns -/

mutual

theorem Param.unplaced_unplaced : ∀ p : Param, p.unplaced.unplaced = p.unplaced
  | .value _ | .variable _ | .loopIndex | .loopObject | .absent => by simp only [Param.unplaced]
  | .command c => by simp only [Param.unplaced, Command.unplaced_unplaced c]
  | .bindings list => by simp only [Param.unplaced, unplacedBindings_unplaced list]
  | .collection _ _ _ items => by simp only [Param.unplaced, unplacedItems_unplaced items]
  | .math _ left right | .condition _ left right => by
    simp only [Param.unplaced, Param.unplaced_unplaced left, unplacedOption_unplaced right]
  | .concat left right | .union left right | .difference left right => by
    simp only [Param.unplaced, Param.unplaced_unplaced left, Param.unplaced_unplaced right]
  | .ambiguous _ left right => by
    simp only [Param.unplaced, Param.unplaced_unplaced left, Param.unplaced_unplaced right]
    rfl

/-- **The unplaced form of a command has no columns left to be set.** -/
theorem Command.unplaced_unplaced : ∀ c : Command, c.unplaced.unplaced = c.unplaced
  | ⟨_, params, _⟩ => by simp only [Command.unplaced, unplacedItems_unplaced params]

theorem unplacedOption_unplaced : ∀ p : Option Param,
    unplacedOption (unplacedOption p) = unplacedOption p
  | none => rfl
  | some p => congrArg some (Param.unplaced_unplaced p)

theorem unplacedItems_unplaced : ∀ ps : List Param,
    unplacedItems (unplacedItems ps) = unplacedItems ps
  | [] => rfl
  | p :: ps => by
    simp only [unplacedItems, Param.unplaced_unplaced p, unplacedItems_unplaced ps]

theorem unplacedBindings_unplaced : ∀ bs : List (String × Param),
    unplacedBindings (unplacedBindings bs) = unplacedBindings bs
  | [] => rfl
  | b :: bs => by
    simp only [unplacedBindings, unplacedBinding_unplaced b, unplacedBindings_unplaced bs]

theorem unplacedBinding_unplaced : ∀ b : String × Param,
    unplacedBinding (unplacedBinding b) = unplacedBinding b
  | (_, p) => by simp only [unplacedBinding, Param.unplaced_unplaced p]

end

@[simp] theorem StaticKind.ofParam_unplaced (registry : Registry) (p : Param) :
    StaticKind.ofParam registry p.unplaced = StaticKind.ofParam registry p := by
  cases p <;> simp only [Param.unplaced, ofParam, Command.name_unplaced]

end StageScript
