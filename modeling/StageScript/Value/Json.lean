import StageScript.Json.Reader
import StageScript.Value.Collection

/-!
# Values as JSON

Unit is `null`, collections are arrays, and a character or an entity is an object that names its
kind. A number always shows a fraction or an exponent, and is `null` when it is not finite. Reading
goes the other way; a collection that is read admits anything.
-/

namespace StageScript.Value

/-! ### Writing -/

/-- How a number is written in JSON: positionally when the leading digit stands between the fifth
place behind the point and the sixteenth before it. -/
def jsonLayout : Decimal.Layout where
  positional := fun power => -5 ≤ power && power ≤ 15
  keepsFraction := true
  exponentSign := "+"
  tie := .toEven
  nan := "null"
  infinity := "null"
  negativeInfinity := "null"

/-- A hexadecimal digit. -/
def hexDigit (n : Nat) : Char := Nat.digitChar (n % 16)

/-- A character inside a JSON text. -/
def jsonChar (c : Char) : List Char :=
  match c with
  | '"' => ['\\', '"']
  | '\\' => ['\\', '\\']
  | '\x08' => ['\\', 'b']
  | '\x0c' => ['\\', 'f']
  | '\n' => ['\\', 'n']
  | '\r' => ['\\', 'r']
  | '\t' => ['\\', 't']
  | c =>
    if c.toNat < 0x20 then ['\\', 'u', '0', '0', hexDigit (c.toNat / 16), hexDigit c.toNat]
    else [c]

/-- A text as JSON. -/
def jsonText (s : String) : String := String.ofList ('"' :: s.toList.flatMap jsonChar ++ ['"'])

/-- Members as a JSON object, in the order given. -/
def jsonObject (members : List (String × String)) : String :=
  let body := members.map fun member => jsonText member.1 ++ ":" ++ member.2
  "\x7b" ++ ",".intercalate body ++ "\x7d"

/-- An object of the stage as JSON. -/
def jsonOfObject : Object → String
  | .character c => jsonObject
    [("kind", jsonText "Character"), ("id", jsonText c.id), ("uniqueName", jsonText c.uniqueName)]
  | .entity e => jsonObject
    [("kind", jsonText "Entity"), ("id", jsonText e.id), ("name", jsonText e.name)]

mutual

/-- A value as JSON. -/
def toJson : Value → String
  | .unit => "null"
  | .boolean b => if b then "true" else "false"
  | .number n => jsonLayout.write n.float
  | .text s => jsonText s
  | .collection _ items => "[" ++ ",".intercalate (toJsons items) ++ "]"
  | .object o => jsonOfObject o

/-- Several values as JSON. -/
def toJsons : List Value → List String
  | [] => []
  | v :: vs => toJson v :: toJsons vs

end

/-- A value or nothing as JSON. -/
def optionToJson : Option Value → String
  | none => "null"
  | some v => v.toJson

end StageScript.Value

/-! ### Reading -/

namespace StageScript.Json

/-- The one member under a key; two of them are not accepted. -/
def member? (key : String) (members : List (Option String × Json)) : Option Json :=
  match members.filter fun member => member.1 == some key with
  | [(_, json)] => some json
  | _ => none

/-- The text of a tree. -/
def asText? : Json → Option String
  | .text content => content
  | _ => none

/-- The text of the one member under a key. -/
def textMember? (key : String) (members : List (Option String × Json)) : Option String :=
  (member? key members).bind asText?

/-- A character from its members. -/
def toCharacter? (members : List (Option String × Json)) : Option Character := do
  return ⟨← textMember? "id" members, ← textMember? "uniqueName" members⟩

/-- An entity from its members. -/
def toEntity? (members : List (Option String × Json)) : Option Entity := do
  return ⟨← textMember? "id" members, ← textMember? "name" members⟩

/-- The kinds of objects, in the order in which a number may stand for them. -/
def objectKinds : List String := ["Character", "Entity"]

/-- The kind an object names, by its word or by its number. -/
def kindWord? : Json → Option String
  | .text content => content
  | .number literal => literal.toNat?.bind (objectKinds[·]?)
  | _ => none

/-- An object of the stage from its members. -/
def toObject? (members : List (Option String × Json)) : Option Object := do
  match ← (member? "kind" members).bind kindWord? with
  | "Character" => (toCharacter? members).map .character
  | "Entity" => (toEntity? members).map .entity
  | _ => none

mutual

/-- The value of a tree. -/
def toValue? : Json → Option Value
  | .null => some .unit
  | .boolean b => some (.boolean b)
  | .number literal => literal.toFloat?.map .ofFloat
  | .text content => content.map .text
  | .array items => (toValues? items).map (.collection .any)
  | .object members => (toObject? members).map .object

/-- The values of several trees. -/
def toValues? : List Json → Option (List Value)
  | [] => some []
  | j :: js => do
    let v ← toValue? j
    let vs ← toValues? js
    return v :: vs

end

end StageScript.Json

namespace StageScript.Value

/-- The value of a JSON text. -/
def ofJson? (text : String) : Option Value := (Json.readFull? text).bind Json.toValue?

end StageScript.Value
