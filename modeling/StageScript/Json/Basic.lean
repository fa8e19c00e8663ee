/-!
# JSON

The tree of a JSON text, as written: a number keeps its literal, and a text or a key that cannot be
decoded (half of a surrogate pair stands alone) is kept as such. `Literal.toFloat?` gives the number
of a literal: the leading digits that fit into 64 bits, scaled once by a power of ten. So a literal
with many digits may differ from the nearest float in its last place.
-/

namespace StageScript

/-- A number as it is written. -/
structure Json.Literal where
  negative : Bool
  /-- The digits before the point. -/
  whole : List Char
  /-- The digits behind the point; empty without a point. -/
  fraction : List Char
  /-- The exponent: whether it is negative, and its digits. -/
  exponent : Option (Bool × List Char)
deriving DecidableEq, Repr, Inhabited

/-- A JSON text. -/
inductive Json where
  | null
  | boolean (b : Bool)
  | number (literal : Json.Literal)
  /-- A text, unless it cannot be decoded. -/
  | text (content : Option String)
  | array (items : List Json)
  | object (members : List (Option String × Json))
deriving Inhabited

namespace Json

/-! ### The number of a literal -/

/-- The value of a decimal digit. -/
def digitValue (c : Char) : Nat := c.toNat - '0'.toNat

/-- The largest significand. -/
def maxSignificand : Nat := Nat.pow 2 64 - 1

/-- Takes digits into the significand while it stays within 64 bits; returns it with the digits
that were not taken. -/
def takeDigits (significand : Nat) : List Char → Nat × List Char
  | [] => (significand, [])
  | c :: cs =>
    let next := significand * 10 + digitValue c
    if next ≤ maxSignificand then takeDigits next cs else (significand, c :: cs)

/-- Divides by `10 ^ power`, in steps of `10 ^ 308`. -/
def scaleDown (x : Float) (power : Nat) : Float :=
  if power ≤ 308 then x / Float.ofScientific 1 false power
  else if x == 0.0 then x
  else scaleDown (x / Float.ofScientific 1 false 308) (power - 308)
termination_by power

/-- `significand · 10 ^ power`, unless it is too large. -/
def scaled? (significand : Nat) (power : Int) : Option Float :=
  let x := Float.ofNat significand
  if power < 0 then some (scaleDown x power.natAbs)
  else if power ≤ 308 then
    let y := x * Float.ofScientific 1 false power.toNat
    if y.isInf then none else some y
  else if x == 0.0 then some x
  else none

/-- The natural number of some digits. -/
def digitsValue (cs : List Char) : Nat := cs.foldl (fun n c => n * 10 + digitValue c) 0

/-- The magnitude of a literal. An exponent that does not fit into 32 bits gives zero, or no number
if it is positive and the digits are not all zero. -/
def Literal.magnitude? (l : Literal) : Option Float :=
  let (before, beyond) := takeDigits 0 l.whole
  let (significand, rest) := takeDigits before l.fraction
  let taken := l.fraction.length - rest.length
  let power : Int := (beyond.length : Int) - taken
  match l.exponent with
  | none => scaled? significand power
  | some (negative, digits) =>
    let exponent := digitsValue digits
    if Nat.pow 2 31 ≤ exponent then
      if significand ≠ 0 ∧ !negative then none else some 0.0
    else scaled? significand (if negative then power - exponent else power + exponent)

/-- The number of a literal, unless it is too large. -/
def Literal.toFloat? (l : Literal) : Option Float :=
  l.magnitude?.map fun x => if l.negative then -x else x

/-- The number of a literal that is a natural number within 64 bits, written without sign, point
and exponent. -/
def Literal.toNat? (l : Literal) : Option Nat :=
  if l.negative || !l.fraction.isEmpty || l.exponent.isSome then none
  else
    let n := digitsValue l.whole
    if n ≤ maxSignificand then some n else none

/-! ### Trees that can be read in full -/

mutual

/-- Whether every number and every text of the tree can be read and brackets are nested at most
`depth` deep. -/
def isReadable (depth : Nat) : Json → Bool
  | .null => true
  | .boolean _ => true
  | .number literal => literal.toFloat?.isSome
  | .text content => content.isSome
  | .array items => match depth with
    | 0 => false
    | depth + 1 => areReadable depth items
  | .object members => match depth with
    | 0 => false
    | depth + 1 => membersReadable depth members
termination_by structural json => json

/-- Whether all trees can be read. -/
def areReadable (depth : Nat) : List Json → Bool
  | [] => true
  | j :: js => isReadable depth j && areReadable depth js
termination_by structural list => list

/-- Whether all members can be read. -/
def membersReadable (depth : Nat) : List (Option String × Json) → Bool
  | [] => true
  | (key, j) :: ms => key.isSome && isReadable depth j && membersReadable depth ms
termination_by structural list => list

end

end Json

end StageScript
