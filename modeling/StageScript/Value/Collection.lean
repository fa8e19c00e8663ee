import StageScript.Fault

/-!
# Collections

A collection holds items of the kind it admits. Items are added from left to right, so a misfit is
reported for the first item that does not fit. The union of two collections keeps the constraint of
the left one; the difference removes, for each item on the right, its first occurrence on the left.
-/

namespace StageScript

/-- Items under a constraint. -/
structure Collection where
  element : ElementKind
  items : List Value
deriving Inhabited

namespace Collection

/-- The collection as a value. -/
def toValue (c : Collection) : Value := .collection c.element c.items

/-- Adds several items at the end; the first that does not fit is reported. -/
def extend (c : Collection) (items : List Value) : Except Fault Collection :=
  match items.find? fun v => !c.element.accepts v with
  | some v => .error { cause := .misfit v.kind c.element }
  | none => .ok { c with items := c.items ++ items }

/-- Adds an item at the end. -/
def push (c : Collection) (v : Value) : Except Fault Collection := c.extend [v]

/-- The collection of these items under a constraint. -/
def typed (element : ElementKind) (items : List Value) : Except Fault Collection :=
  extend ⟨element, []⟩ items

/-- The collection of these items without a constraint. -/
def ofItems (items : List Value) : Collection := ⟨.any, items⟩

/-- The items of the left followed by those of the right, under the constraint of the left. -/
def union (left right : Collection) : Except Fault Collection := left.extend right.items

/-- The left without the first occurrence of each item of the right. -/
def difference (left right : Collection) : Collection :=
  { left with items := right.items.foldl (fun rest item => rest.eraseP (· == item)) left.items }

end Collection

/-- The collection, if the value is one. -/
def Value.asCollection? : Value → Option Collection
  | .collection element items => some ⟨element, items⟩
  | _ => none

end StageScript
