import StageScript.Value.Basic

/-!
# Compiled commands

A line compiles to a command: its name, one param for each slot, and the number of its line. A param
is a value, a reference that is resolved when it is read, an operation, or a nested command.

The meaning of `+` and `-` may depend on the kind of the left operand and is then chosen when they
are first evaluated. Such an operator is named by its `Occurrence` in the source, under which the
choice is remembered.
-/

namespace StageScript

/-- How the operands of a condition are compared or joined. -/
inductive Comparator where
  | identity
  | not
  | equals
  | greaterThan
  | lessThan
  | and
  | or
deriving DecidableEq, Repr

/-- The operators whose meaning depends on the kind of the left operand. -/
inductive AmbiguousOperator where
  | plus
  | minus
deriving DecidableEq, Repr

/-- How an ambiguous operator is written. -/
def AmbiguousOperator.symbol : AmbiguousOperator → String
  | .plus => "+"
  | .minus => "-"

/-- One place in a script where an ambiguous operator stands. -/
structure Occurrence where
  operator : AmbiguousOperator
  line : Nat
  column : Nat
deriving DecidableEq, Repr

mutual

/-- **What a slot of a command holds.** -/
inductive Param where
  | value (v : Value)
  /-- The variable of this name. -/
  | variable (name : String)
  | loopIndex
  | loopObject
  | command (c : Command)
  /-- The `WITH` list of a call. -/
  | bindings (list : List (String × Param))
  /-- Items under a constraint. `bare` marks a single operand written without brackets, `all` the
  list of every object of the element kind. -/
  | collection (element : ElementKind) (bare all : Bool) (items : List Param)
  | math (operator : MathOperator) (left : Param) (right : Option Param)
  | concat (left right : Param)
  | union (left right : Param)
  | difference (left right : Param)
  | condition (comparator : Comparator) (left : Param) (right : Option Param)
  | ambiguous (place : Occurrence) (left right : Param)
  /-- A slot left out. -/
  | absent

/-- A command with its params. -/
structure Command where
  name : String
  params : List Param
  line : Nat

end

instance : Inhabited Param := ⟨.absent⟩

instance : Inhabited Command := ⟨⟨"", [], 0⟩⟩

namespace Param

/-- The name, if the param is a bare variable. -/
def variableName? : Param → Option String
  | .variable name => some name
  | _ => none

/-- The text, if the param is a text literal. -/
def literalText? : Param → Option String
  | .value (.text s) => some s
  | _ => none

/-- Whether the slot was left out. -/
def isAbsent : Param → Bool
  | .absent => true
  | _ => false

/-- The nested command. -/
def command? : Param → Option Command
  | .command c => some c
  | _ => none

/-- Whether the param is a condition. -/
def isCondition : Param → Bool
  | .condition _ _ _ => true
  | _ => false

/-- A text literal. -/
def ofText (s : String) : Param := .value (.text s)

/-- A number literal. -/
def ofFloat (x : Float) : Param := .value (.ofFloat x)

/-- The number of a line. -/
def ofLine (line : Nat) : Param := .value (.number (.ofInt line))

/-- The params directly in a param. Those of a nested command are not counted. -/
def parts : Param → List Param
  | .bindings list => list.map (·.2)
  | .collection _ _ _ items => items
  | .math _ left right | .condition _ left right => left :: right.toList
  | .concat left right | .union left right | .difference left right => [left, right]
  | .ambiguous _ left right => [left, right]
  | _ => []

/-- The param that a path leads to, part by part. -/
def part (p : Param) (path : List Nat) : Param :=
  path.foldl (fun q index => q.parts.getD index .absent) p

end Param

/-- The param in a slot; slots beyond the last are left out. -/
def Command.param (c : Command) (index : Nat) : Param := c.params.getD index .absent

end StageScript
