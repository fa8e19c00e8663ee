import StageScript.Table
import StageScript.Value.Basic

/-!
# Cells and scopes

A variable is a name for a cell. Two names may stand for one cell, and then a write through one is
seen through the other. A scope is a set of names, shared by all who hold its id. Cells and scopes
are numbered as they come into being and never go away.
-/

namespace StageScript

/-- The number of a cell. -/
abbrev CellId := Nat

/-- The number of a scope. -/
abbrev ScopeId := Nat

/-- Names and the cells they stand for. -/
abbrev Names := Table String CellId

/-- All cells and all scopes. -/
structure Memory where
  cells : Array Value := #[]
  scopes : Array Names := #[]
deriving Inhabited

namespace Memory

/-! ### Cells -/

/-- Makes a cell. -/
def newCell (m : Memory) (v : Value) : CellId × Memory :=
  (m.cells.size, { m with cells := m.cells.push v })

/-- What a cell holds. -/
def read (m : Memory) (cell : CellId) : Value := m.cells.getD cell .unit

/-- Writes into a cell. -/
def write (m : Memory) (cell : CellId) (v : Value) : Memory :=
  { m with cells := m.cells.setIfInBounds cell v }

/-! ### Scopes -/

/-- Makes an empty scope. -/
def newScope (m : Memory) : ScopeId × Memory :=
  (m.scopes.size, { m with scopes := m.scopes.push Table.empty })

/-- The names of a scope. -/
def names (m : Memory) (scope : ScopeId) : Names := m.scopes.getD scope Table.empty

/-- The cell behind a name of a scope. -/
def cellIn? (m : Memory) (scope : ScopeId) (name : String) : Option CellId :=
  (m.names scope).get? name

/-- Makes a name stand for a cell. -/
def bind (m : Memory) (scope : ScopeId) (name : String) (cell : CellId) : Memory :=
  { m with scopes := m.scopes.setIfInBounds scope ((m.names scope).insert name cell) }

/-- Writes into the cell behind a name, or makes one. -/
def set (m : Memory) (scope : ScopeId) (name : String) (v : Value) : Memory :=
  match m.cellIn? scope name with
  | some cell => m.write cell v
  | none =>
    let (cell, m) := m.newCell v
    m.bind scope name cell

/-- Forgets a name. -/
def unbind (m : Memory) (scope : ScopeId) (name : String) : Memory :=
  { m with scopes := m.scopes.setIfInBounds scope ((m.names scope).erase name) }

/-- The names of a scope with the values behind them, in order. -/
def contents (m : Memory) (scope : ScopeId) : List (String × Value) :=
  (m.names scope).entries.map fun e => (e.1, m.read e.2)

end Memory

end StageScript
