import StageScript.Store.Memory

/-!
# Stores

A store holds the variables of one owner, the world or a program: those it shares among all actors,
and those it keeps for each character. A character without variables has no entry.
-/

namespace StageScript

/-- The variables of the world or of a program. -/
structure Store where
  shared : Names := Table.empty
  /-- By the id of the character. -/
  byCharacter : Table String Names := Table.empty
deriving Inhabited

namespace Store

/-- The cell of a shared variable. -/
def shared? (s : Store) (name : String) : Option CellId := s.shared.get? name

/-- The cell of a variable of a character. -/
def characters? (s : Store) (id name : String) : Option CellId :=
  (s.byCharacter.get? id).bind (·.get? name)

/-- Whether any character has the name. -/
def anyCharacterHas (s : Store) (name : String) : Bool :=
  s.byCharacter.values.any (·.contains name)

/-- Adds a shared variable. -/
def addShared (s : Store) (name : String) (cell : CellId) : Store :=
  { s with shared := s.shared.insert name cell }

/-- Adds a variable of a character. -/
def addFor (s : Store) (id name : String) (cell : CellId) : Store :=
  let names := ((s.byCharacter.get? id).getD Table.empty).insert name cell
  { s with byCharacter := s.byCharacter.insert id names }

/-- Removes a shared variable. -/
def removeShared (s : Store) (name : String) : Store := { s with shared := s.shared.erase name }

/-- Removes a variable of a character, and the character once it has none left. -/
def removeFor (s : Store) (id name : String) : Store :=
  match s.byCharacter.get? id with
  | none => s
  | some names =>
    let names := names.erase name
    if names.isEmpty then { s with byCharacter := s.byCharacter.erase id }
    else { s with byCharacter := s.byCharacter.insert id names }

end Store

end StageScript
