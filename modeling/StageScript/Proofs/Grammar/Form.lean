import Mathlib.Data.List.Forall2
import StageScript.Grammar.Command

/-!
# How commands are written

The params of a command are written as the form of its signature asks (`Signature.Written`): a slot
of a command in the standard form has the shape of its kind (`ParamKind.Fits`), and the names of
variables are free (`Registry.IsFree`).

One command stands apart. Where `WORLD` or `PROGRAM` is written in the place of targets, the command
for that tier is taken from the registry, but its params are read as a name with or without a value,
whatever form that command has there (`Signature.Redirected`).
-/

namespace StageScript

/-- A name that a variable may have: it is neither reserved nor that of a command. -/
def Registry.IsFree (registry : Registry) (name : String) : Prop :=
  isReserved name = false ∧ registry.hasCommand name = false

/-- A label that may be written: `START`, or a word that is not reserved. -/
def IsLabel (label : String) : Prop := label = startLabel ∨ isReserved label = false

/-- A collection literal, or a union or difference. -/
def Param.isCollection : Param → Bool
  | .collection _ _ _ _ | .union _ _ | .difference _ _ => true
  | _ => false

theorem isCollection_setOperation (additive : Bool) (left right : Param) :
    (setOperation additive left right).isCollection = true := by
  cases additive <;> rfl

/-- **The shape of a slot of a kind.** -/
def ParamKind.Fits (registry : Registry) (line : Nat) : ParamKind → Param → Prop
  | .command, p => ∃ c, p = .command c
  | .boolean, p => p.isCondition = true
  | .collection _, p => p.isCollection = true
  | .label, p => ∃ label, p = .ofText label ∧ IsLabel label
  | .name, p => ∃ name, p = .ofText name ∧ registry.IsFree name
  | .bindings, p => ∃ list, p = .bindings list
  | .line, p => p = .ofLine line
  | .any, _ | .number, _ | .text, _ => True

/-- A name and a value. -/
def Registry.NamesValue (registry : Registry) (params : List Param) : Prop :=
  ∃ name value, params = [.ofText name, value] ∧ registry.IsFree name

/-- A name alone. -/
def Registry.Names (registry : Registry) (params : List Param) : Prop :=
  ∃ name, params = [.ofText name] ∧ registry.IsFree name

/-- The targets of a command, in front of other params. -/
def Param.TargetsBefore (rest : List Param → Prop) (params : List Param) : Prop :=
  ∃ targets others, params = targets :: others ∧ targets.isCollection = true ∧ rest others

namespace Signature

/-- **Params as the form of a signature asks for them.** -/
def Written (registry : Registry) (line : Nat) (signature : Signature) (params : List Param) :
    Prop :=
  match signature.form with
  | .standard | .goTo => List.Forall₂ (ParamKind.Fits registry line) signature.params params
  | .set => registry.NamesValue params
  | .unset => registry.Names params
  | .setFor => Param.TargetsBefore registry.NamesValue params
  | .unsetFor => Param.TargetsBefore registry.Names params
  | .call => ∃ label list, params = [.ofText label, .bindings list, .ofLine line] ∧ IsLabel label
  | .conditional => ∃ condition c otherwise, params = [condition, .command c, otherwise] ∧
      condition.isCondition = true ∧ (otherwise = .absent ∨ ∃ d, otherwise = .command d)

/-- Params that stand for kinds one after the other do so at each slot. -/
theorem fits_of_forall₂ {R : ParamKind → Param → Prop} {kinds : List ParamKind}
    {params : List Param} (h : List.Forall₂ R kinds params) {i : Nat} {kind : ParamKind}
    (hi : kinds[i]? = some kind) : R kind (params.getD i .absent) := by
  induction h generalizing i with
  | nil => cases hi
  | cons hfits _ ih =>
    cases i with
    | zero =>
      cases hi
      exact hfits
    | succ i => exact ih hi

/-- Params of the command that is taken for a tier, under its key in the registry. -/
def Redirected (registry : Registry) (key : String) (params : List Param) : Prop :=
  key ∈ ["SET-FOR-WORLD", "SET-FOR-PROGRAM"] ∧ registry.NamesValue params ∨
    key ∈ ["UN-SET-FOR-WORLD", "UN-SET-FOR-PROGRAM"] ∧ registry.Names params

end Signature

/-- What a command is signed with: a signature of the registry whose form its params are written
in, or that of a tier. -/
def Command.Signed (registry : Registry) (line : Nat) (c : Command) : Prop :=
  ∃ key signature, registry.signature? key = some signature ∧ c.name = signature.name ∧
    c.params.length = signature.params.length ∧
    (signature.Written registry line c.params ∨ Signature.Redirected registry key c.params)

end StageScript
