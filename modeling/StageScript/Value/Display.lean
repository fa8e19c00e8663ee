import StageScript.Text.Hidden
import StageScript.Value.Basic

/-!
# Texts of a value

`display` is what a script shows: `TRUE`, `12`, `[a, b]`, the name of a character. `describe` spells
out the structure of a value for a report about the script: kinds are named, texts are quoted and
numbers always show a fraction.
-/

namespace StageScript.Value

open Text

/-! ### What a script shows -/

mutual

/-- The text a script shows. -/
def display : Value → String
  | .unit => ""
  | .boolean b => if b then "TRUE" else "FALSE"
  | .number n => n.display
  | .text s => s
  | .collection _ items => "[" ++ ", ".intercalate (displays items) ++ "]"
  | .object o => o.displayName

/-- The texts of several values. -/
def displays : List Value → List String
  | [] => []
  | v :: vs => display v :: displays vs

end

/-! ### Descriptions -/

/-- A character as an escape by its code point. -/
def codeEscape (c : Char) : List Char :=
  "\\u\x7b".toList ++ Nat.toDigits 16 c.toNat ++ ['\x7d']

/-- A character inside a quoted text. -/
def quotedChar (c : Char) : List Char :=
  match c with
  | '"' => ['\\', '"']
  | '\\' => ['\\', '\\']
  | '\n' => ['\\', 'n']
  | '\r' => ['\\', 'r']
  | '\t' => ['\\', 't']
  | '\x00' => ['\\', '0']
  | c => if isHidden c then codeEscape c else [c]

/-- A text in quotes. -/
def quoted (s : String) : String :=
  String.ofList ('"' :: s.toList.flatMap quotedChar ++ ['"'])

/-- The fields of a record under its name. -/
def record (name : String) (fields : List (String × String)) : String :=
  let body := fields.map fun field => field.1 ++ ": " ++ field.2
  name ++ " \x7b " ++ ", ".intercalate body ++ " \x7d"

/-- An element kind in a description. -/
def elementWord : ElementKind → String
  | .any => "Any"
  | .number => "Number"
  | .text => "Text"
  | .boolean => "Boolean"
  | .character => "Character"
  | .entity => "Entity"
  | .collection => "Collection"

/-- An object in a description. -/
def describeObject : Object → String
  | .character c =>
    "Character(" ++
      record "Character" [("id", quoted c.id), ("unique_name", quoted c.uniqueName)] ++ ")"
  | .entity e =>
    "Entity(" ++ record "Entity" [("id", quoted e.id), ("name", quoted e.name)] ++ ")"

mutual

/-- The description of a value. -/
def describe : Value → String
  | .unit => "Unit"
  | .boolean b => "Boolean(" ++ (if b then "true" else "false") ++ ")"
  | .number n => "Number(" ++ record "Number" [("value", n.describe)] ++ ")"
  | .text s => "Text(" ++ quoted s ++ ")"
  | .collection element items =>
    let list := "[" ++ ", ".intercalate (describes items) ++ "]"
    "Collection(" ++
      record "Collection" [("items", list), ("element", elementWord element)] ++ ")"
  | .object o => "Object(" ++ describeObject o ++ ")"

/-- The descriptions of several values. -/
def describes : List Value → List String
  | [] => []
  | v :: vs => describe v :: describes vs

end

end StageScript.Value
