import StageScript.Value.Basic

/-!
# The directory of the stage

The characters and entities scripts can name. A key names an object if it is its id, or its name
written in any mixture of small and capital letters of the English alphabet. The first object in
the list wins.
-/

namespace StageScript

/-- The characters and entities of the stage. -/
structure Directory where
  characters : List Character := []
  entities : List Entity := []
deriving Inhabited

namespace Directory

/-- Equality up to the case of English letters. -/
def sameName (a b : String) : Bool := a.toList.map Char.toLower == b.toList.map Char.toLower

/-- The character a key names. -/
def character? (d : Directory) (key : String) : Option Character :=
  d.characters.find? fun c => c.id == key || sameName c.uniqueName key

/-- The entity a key names. -/
def entity? (d : Directory) (key : String) : Option Entity :=
  d.entities.find? fun e => e.id == key || sameName e.name key

/-- The object of an element kind a key names. -/
def object? (d : Directory) (element : ElementKind) (key : String) : Option Object :=
  match element with
  | .character => (d.character? key).map .character
  | .entity => (d.entity? key).map .entity
  | _ => none

/-- All objects of an element kind; other kinds cannot be listed. -/
def objects? (d : Directory) (element : ElementKind) : Option (List Object) :=
  match element with
  | .character => some (d.characters.map .character)
  | .entity => some (d.entities.map .entity)
  | _ => none

end Directory

end StageScript
