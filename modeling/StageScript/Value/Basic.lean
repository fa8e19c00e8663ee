import StageScript.Number

/-!
# Values

What scripts compute with: unit, booleans, numbers, texts, collections, and the characters and
entities of the stage. A collection carries the kind of element it admits. Equality is the
language's own: numbers compare as floats, and two collections are equal when their items are,
whatever they admit.
-/

namespace StageScript

/-- Someone who can act. -/
structure Character where
  id : String
  uniqueName : String
deriving DecidableEq, Repr, Inhabited

/-- A thing on the stage. -/
structure Entity where
  id : String
  name : String
deriving DecidableEq, Repr, Inhabited

/-- A character or an entity. -/
inductive Object where
  | character (c : Character)
  | entity (e : Entity)
deriving DecidableEq, Repr

/-- The id of an object. -/
def Object.id : Object → String
  | .character c => c.id
  | .entity e => e.id

/-- The name an object is shown by. -/
def Object.displayName : Object → String
  | .character c => c.uniqueName
  | .entity e => e.name

/-- What a collection admits. -/
inductive ElementKind where
  | any
  | number
  | text
  | boolean
  | character
  | entity
  | collection
deriving DecidableEq, Repr, Inhabited

/-- The word for an element kind. -/
def ElementKind.name : ElementKind → String
  | .any => "any"
  | .number => "number"
  | .text => "text"
  | .boolean => "boolean"
  | .character => "character"
  | .entity => "entity"
  | .collection => "collection"

/-- Whether the elements are looked up in the directory of the stage. -/
def ElementKind.isObject : ElementKind → Bool
  | .character | .entity => true
  | _ => false

/-- All element kinds. -/
def ElementKind.all : List ElementKind :=
  [.any, .number, .text, .boolean, .character, .entity, .collection]

/-- The kind of a value. -/
inductive ValueKind where
  | number
  | text
  | boolean
  | collection
  | object
  | unit
deriving DecidableEq, Repr

/-- The word for a kind of value. -/
def ValueKind.name : ValueKind → String
  | .number => "number"
  | .text => "text"
  | .boolean => "boolean"
  | .collection => "collection"
  | .object => "object"
  | .unit => "unit"

/-- **The values of the language.** -/
inductive Value where
  | unit
  | boolean (b : Bool)
  | number (n : Number)
  | text (s : String)
  | collection (element : ElementKind) (items : List Value)
  | object (o : Object)
deriving Inhabited

namespace Value

/-- The kind of a value. -/
def kind : Value → ValueKind
  | .unit => .unit
  | .boolean _ => .boolean
  | .number _ => .number
  | .text _ => .text
  | .collection _ _ => .collection
  | .object _ => .object

/-- The word for the kind of a value. -/
def kindName (v : Value) : String := v.kind.name

/-- The number, if the value is one. -/
def asNumber? : Value → Option Number
  | .number n => some n
  | _ => none

/-- The text, if the value is one. -/
def asText? : Value → Option String
  | .text s => some s
  | _ => none

/-- The truth value, if the value is one. -/
def asBool? : Value → Option Bool
  | .boolean b => some b
  | _ => none

/-- Whether the value is unit. -/
def isUnit : Value → Bool
  | .unit => true
  | _ => false

/-- The number of a float. -/
def ofFloat (x : Float) : Value := .number ⟨x⟩

mutual

/-- The language's equality. -/
def equal : Value → Value → Bool
  | .unit, .unit => true
  | .boolean a, .boolean b => a == b
  | .number a, .number b => a == b
  | .text a, .text b => a == b
  | .collection _ a, .collection _ b => equalItems a b
  | .object a, .object b => a == b
  | _, _ => false

/-- Equality of lists, item by item. -/
def equalItems : List Value → List Value → Bool
  | [], [] => true
  | a :: as, b :: bs => equal a b && equalItems as bs
  | _, _ => false

end

instance : BEq Value := ⟨equal⟩

end Value

/-- Whether a collection of this kind admits the value. -/
def ElementKind.accepts : ElementKind → Value → Bool
  | .any, _ => true
  | .number, .number _ => true
  | .text, .text _ => true
  | .boolean, .boolean _ => true
  | .character, .object (.character _) => true
  | .entity, .object (.entity _) => true
  | .collection, .collection _ _ => true
  | _, _ => false

end StageScript
