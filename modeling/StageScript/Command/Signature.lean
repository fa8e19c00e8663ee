import StageScript.Value.Basic

/-!
# Signatures of commands

A signature says how a command is written: its name, what each of its slots holds, the form of its
line, and the kind of value it gives where that is known.
-/

namespace StageScript

/-- What a slot holds. -/
inductive ParamKind where
  | any
  | number
  | text
  | boolean
  | collection (element : ElementKind)
  | command
  | label
  | name
  | bindings
  | line
deriving DecidableEq, Repr

/-- How the slots of a command are written. -/
inductive Form where
  /-- One slot after the other. -/
  | standard
  | goTo
  /-- `NAME = value` -/
  | set
  /-- `targets : NAME = value` -/
  | setFor
  /-- `NAME` -/
  | unset
  /-- `targets : NAME` -/
  | unsetFor
  /-- `LABEL WITH [bindings]` -/
  | call
  /-- `condition : command : ELSE : command` -/
  | conditional
deriving DecidableEq, Repr

/-- How a command is written. -/
structure Signature where
  name : String
  params : List ParamKind
  returns : Option ValueKind := none
  form : Form := .standard
deriving DecidableEq, Repr

end StageScript
