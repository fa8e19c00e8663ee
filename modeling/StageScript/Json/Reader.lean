import StageScript.Json.Basic

/-!
# Reading JSON

`Json.read?` reads a whole text as one JSON value: white space is space, tab, line feed and carriage
return, numbers have no leading zeros, texts hold no bare control characters. Each reader returns
what it read with the rest of the text; `budget` bounds the calls and is larger than any text needs.
-/

namespace StageScript.Json

/-- White space between the parts of a JSON text. -/
def isSpace (c : Char) : Bool := c = ' ' || c = '\t' || c = '\n' || c = '\r'

/-- The text behind white space. -/
def skipSpace (cs : List Char) : List Char := cs.dropWhile isSpace

/-! ### Numbers -/

/-- A point with at least one digit behind it, or nothing. -/
def readFraction? : List Char → Option (List Char × List Char)
  | '.' :: cs =>
    let digits := cs.takeWhile Char.isDigit
    if digits.isEmpty then none else some (digits, cs.dropWhile Char.isDigit)
  | cs => some ([], cs)

/-- The sign of an exponent, and the text behind it. -/
def readSign : List Char → Bool × List Char
  | '-' :: cs => (true, cs)
  | '+' :: cs => (false, cs)
  | cs => (false, cs)

/-- An exponent, or nothing. -/
def readExponent? : List Char → Option (Option (Bool × List Char) × List Char)
  | [] => some (none, [])
  | c :: cs =>
    if c = 'e' || c = 'E' then
      let (negative, cs) := readSign cs
      let digits := cs.takeWhile Char.isDigit
      if digits.isEmpty then none else some (some (negative, digits), cs.dropWhile Char.isDigit)
    else some (none, c :: cs)

/-- The digits before the point: a zero alone, or digits that do not start with one. -/
def readWhole? (cs : List Char) : Option (List Char × List Char) :=
  match cs.takeWhile Char.isDigit with
  | [] => none
  | ['0'] => some (['0'], cs.drop 1)
  | '0' :: _ => none
  | digits => some (digits, cs.dropWhile Char.isDigit)

/-- A number whose sign was read before. -/
def readLiteral? (negative : Bool) (cs : List Char) : Option (Literal × List Char) := do
  let (whole, cs) ← readWhole? cs
  let (fraction, cs) ← readFraction? cs
  let (exponent, cs) ← readExponent? cs
  return (⟨negative, whole, fraction, exponent⟩, cs)

/-! ### Texts -/

/-- The value of a hexadecimal digit. -/
def hexValue? (c : Char) : Option Nat :=
  if c.isDigit then some (c.toNat - '0'.toNat)
  else if 'a' ≤ c && c ≤ 'f' then some (c.toNat - 'a'.toNat + 10)
  else if 'A' ≤ c && c ≤ 'F' then some (c.toNat - 'A'.toNat + 10)
  else none

/-- The number of four hexadecimal digits. -/
def hexUnit? (a b c d : Char) : Option Nat := do
  return (((← hexValue? a) * 16 + (← hexValue? b)) * 16 + (← hexValue? c)) * 16 + (← hexValue? d)

/-- What an escape with a single letter stands for. -/
def shortEscape? : Char → Option Char
  | '"' => some '"'
  | '\\' => some '\\'
  | '/' => some '/'
  | 'b' => some '\x08'
  | 'f' => some '\x0c'
  | 'n' => some '\n'
  | 'r' => some '\r'
  | 't' => some '\t'
  | _ => none

/-- A piece of a text: a character, or a 16-bit unit written as an escape. -/
inductive Piece where
  | char (c : Char)
  | unit (code : Nat)

/-- The pieces of a text up to the closing quote. -/
def readPieces? : List Char → Option (List Piece × List Char)
  | [] => none
  | '"' :: cs => some ([], cs)
  | '\\' :: 'u' :: a :: b :: c :: d :: cs => do
    let code ← hexUnit? a b c d
    let (pieces, rest) ← readPieces? cs
    return (.unit code :: pieces, rest)
  | '\\' :: c :: cs => do
    let c ← shortEscape? c
    let (pieces, rest) ← readPieces? cs
    return (.char c :: pieces, rest)
  | c :: cs =>
    if c.toNat < 0x20 || c = '\\' then none
    else do
      let (pieces, rest) ← readPieces? cs
      return (.char c :: pieces, rest)

/-- The text of some pieces: surrogate pairs are joined, and a surrogate alone cannot be
decoded. -/
def decodePieces? : List Piece → Option (List Char)
  | [] => some []
  | .char c :: ps => (decodePieces? ps).map (c :: ·)
  | .unit high :: .unit low :: ps =>
    if 0xD800 ≤ high && high < 0xDC00 then
      if 0xDC00 ≤ low && low < 0xE000 then
        let code := 0x10000 + (high - 0xD800) * 0x400 + (low - 0xDC00)
        (decodePieces? ps).map (Char.ofNat code :: ·)
      else none
    else if 0xDC00 ≤ high && high < 0xE000 then none
    else (decodePieces? (.unit low :: ps)).map (Char.ofNat high :: ·)
  | .unit code :: ps =>
    if 0xD800 ≤ code && code < 0xE000 then none
    else (decodePieces? ps).map (Char.ofNat code :: ·)

/-- A text behind its opening quote. -/
def readText? (cs : List Char) : Option (Option String × List Char) := do
  let (pieces, rest) ← readPieces? cs
  return ((decodePieces? pieces).map String.ofList, rest)

/-! ### Values -/

/-- The text behind a fixed word. -/
def expect? (word : String) (cs : List Char) : Option (List Char) :=
  if word.toList.isPrefixOf cs then some (cs.drop word.length) else none

mutual

/-- A value, after white space. -/
def readValue? : Nat → List Char → Option (Json × List Char)
  | 0, _ => none
  | budget + 1, cs =>
    match skipSpace cs with
    | [] => none
    | 'n' :: cs => (expect? "ull" cs).map (.null, ·)
    | 't' :: cs => (expect? "rue" cs).map (.boolean true, ·)
    | 'f' :: cs => (expect? "alse" cs).map (.boolean false, ·)
    | '"' :: cs => (readText? cs).map fun (content, rest) => (.text content, rest)
    | '-' :: cs => (readLiteral? true cs).map fun (literal, rest) => (.number literal, rest)
    | '[' :: cs =>
      match skipSpace cs with
      | ']' :: rest => some (.array [], rest)
      | cs => (readItems? budget cs).map fun (items, rest) => (.array items, rest)
    | '\x7b' :: cs =>
      match skipSpace cs with
      | '\x7d' :: rest => some (.object [], rest)
      | cs => (readMembers? budget cs).map fun (members, rest) => (.object members, rest)
    | cs => (readLiteral? false cs).map fun (literal, rest) => (.number literal, rest)

/-- The items of an array, at least one, up to the closing bracket. -/
def readItems? : Nat → List Char → Option (List Json × List Char)
  | 0, _ => none
  | budget + 1, cs => do
    let (item, cs) ← readValue? budget cs
    match skipSpace cs with
    | ']' :: rest => return ([item], rest)
    | ',' :: cs =>
      let (items, rest) ← readItems? budget cs
      return (item :: items, rest)
    | _ => none

/-- The members of an object, at least one, up to the closing brace. -/
def readMembers? : Nat → List Char → Option (List (Option String × Json) × List Char)
  | 0, _ => none
  | budget + 1, cs => do
    let .cons '"' cs := skipSpace cs | none
    let (key, cs) ← readText? cs
    let .cons ':' cs := skipSpace cs | none
    let (item, cs) ← readValue? budget cs
    match skipSpace cs with
    | '\x7d' :: rest => return ([(key, item)], rest)
    | ',' :: cs =>
      let (members, rest) ← readMembers? budget cs
      return ((key, item) :: members, rest)
    | _ => none

end

/-- The tree of a whole text. -/
def read? (text : String) : Option Json := do
  let cs := text.toList
  let (json, rest) ← readValue? (2 * cs.length + 2) cs
  if (skipSpace rest).isEmpty then some json else none

/-- How deep brackets may be nested in a text that is read in full. -/
def maxDepth : Nat := 127

/-- The tree of a whole text all of whose parts can be read. -/
def readFull? (text : String) : Option Json := do
  let json ← read? text
  if json.isReadable maxDepth then some json else none

end StageScript.Json
