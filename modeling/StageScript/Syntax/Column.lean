import StageScript.Syntax.Param

/-!
# Commands without columns

The column of an open operator is the name under which its meaning is remembered. `unplaced` sets
all columns of a param or a command to zero: what is left is how the command is written.
-/

namespace StageScript

/-- The operator as if it stood at the start of its line. -/
def Occurrence.unplaced (place : Occurrence) : Occurrence := { place with column := 0 }

mutual

/-- The param with all operators at the start of their lines. -/
def Param.unplaced : Param → Param
  | .value v => .value v
  | .variable name => .variable name
  | .loopIndex => .loopIndex
  | .loopObject => .loopObject
  | .command c => .command c.unplaced
  | .bindings list => .bindings (unplacedBindings list)
  | .collection element bare all items => .collection element bare all (unplacedItems items)
  | .math operator left right => .math operator left.unplaced (unplacedOption right)
  | .concat left right => .concat left.unplaced right.unplaced
  | .union left right => .union left.unplaced right.unplaced
  | .difference left right => .difference left.unplaced right.unplaced
  | .condition comparator left right => .condition comparator left.unplaced (unplacedOption right)
  | .ambiguous place left right => .ambiguous place.unplaced left.unplaced right.unplaced
  | .absent => .absent
termination_by structural p => p

/-- The command with all operators at the start of their lines. -/
def Command.unplaced : Command → Command
  | ⟨name, params, line⟩ => ⟨name, unplacedItems params, line⟩
termination_by structural c => c

/-- An operand that may be left out. -/
def unplacedOption : Option Param → Option Param
  | none => none
  | some p => some p.unplaced
termination_by structural p => p

/-- The items of a collection or the slots of a command. -/
def unplacedItems : List Param → List Param
  | [] => []
  | p :: ps => p.unplaced :: unplacedItems ps
termination_by structural ps => ps

/-- Bindings. -/
def unplacedBindings : List (String × Param) → List (String × Param)
  | [] => []
  | b :: bs => unplacedBinding b :: unplacedBindings bs
termination_by structural bs => bs

/-- A binding. -/
def unplacedBinding : String × Param → String × Param
  | (name, p) => (name, p.unplaced)
termination_by structural b => b

end

end StageScript
