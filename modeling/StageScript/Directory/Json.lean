import StageScript.Directory.Basic
import StageScript.Value.Json

/-!
# A directory as JSON

A directory is an object with the members `characters` and `entities`, each a list and each empty
when left out, or the array of these lists in this order. A character or an entity is an object with
its two members, or the array of these. Members under other keys are passed over unread.
-/

namespace StageScript

/-- Whether all keys can be decoded. -/
def Json.keysReadable (members : List (Option String × Json)) : Bool :=
  members.all fun member => member.1.isSome

/-- The member under a key if there is one; `none` if there are two. -/
def Json.optionalMember? (key : String) (members : List (Option String × Json)) :
    Option (Option Json) :=
  match members.filter fun member => member.1 == some key with
  | [] => some none
  | [(_, json)] => some (some json)
  | _ => none

/-- The two texts of a record, under their keys or in order. -/
def Json.twoTexts? (first second : String) : Json → Option (String × String)
  | .object members =>
    if keysReadable members then do
      return (← textMember? first members, ← textMember? second members)
    else none
  | .array [.text (some a), .text (some b)] => some (a, b)
  | _ => none

namespace Directory

/-- A list of records. -/
def records? (first second : String) : Json → Option (List (String × String))
  | .array items => items.mapM (Json.twoTexts? first second)
  | _ => none

/-- The characters of a list. -/
def characters? (json : Json) : Option (List Character) :=
  (records? "id" "uniqueName" json).map (·.map fun (id, name) => ⟨id, name⟩)

/-- The entities of a list. -/
def entities? (json : Json) : Option (List Entity) :=
  (records? "id" "name" json).map (·.map fun (id, name) => ⟨id, name⟩)

/-- A list that may be left out. -/
def optional? {α : Type} (read : Json → Option (List α)) : Option Json → Option (List α)
  | none => some []
  | some json => read json

/-- The directory of two lists, each of which may be left out. -/
def ofLists? (characters entities : Option Json) : Option Directory := do
  return ⟨← optional? characters? characters, ← optional? entities? entities⟩

/-- The directory of a tree. -/
def ofTree? : Json → Option Directory
  | .object members =>
    if Json.keysReadable members then do
      ofLists? (← Json.optionalMember? "characters" members)
        (← Json.optionalMember? "entities" members)
    else none
  | .array [] => ofLists? none none
  | .array [characters] => ofLists? characters none
  | .array [characters, entities] => ofLists? characters entities
  | _ => none

/-- The directory of a JSON text. -/
def ofJson? (text : String) : Option Directory := (Json.read? text).bind ofTree?

end Directory

end StageScript
