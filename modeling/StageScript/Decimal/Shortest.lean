import StageScript.Decimal.Binary

/-!
# The fewest digits that read back

`shortest` finds, for a positive float, the decimal with the fewest digits among those that round
to it, and of these the nearest. The reals that round to `mantissa · 2 ^ exponent` form an interval
around it whose ends belong to it exactly when the mantissa is even. For 1, 2, … digits the two
neighbours of the number on that decimal grid are tested; the first grid with a hit wins. All
comparisons are between natural numbers.
-/

namespace StageScript.Decimal

/-- The decimal `significand · 10 ^ scale`. -/
structure Digits where
  significand : Nat
  scale : Int
deriving DecidableEq, Repr, Inhabited

/-- Which of two equally near neighbours is taken. -/
inductive Tie where
  | up
  | toEven
deriving DecidableEq, Repr

/-- A number and the interval around it, over one denominator. -/
structure Neighbourhood where
  value : Nat
  low : Nat
  high : Nat
  denominator : Nat
  /-- Whether the ends belong to the interval. -/
  closed : Bool
deriving Repr

/-- The number of decimal digits, none for zero. -/
def digitCount (n : Nat) : Nat :=
  if n = 0 then 0 else (Nat.toDigits 10 n).length

/-- The power of ten of the leading digit of `value / denominator`. -/
def leadingPower (value denominator : Nat) : Int :=
  if denominator ≤ value then (digitCount (value / denominator) : Int) - 1
  else -(digitCount ((denominator - 1) / value) : Int)

namespace Neighbourhood

/-- The reals that round to `mantissa · 2 ^ exponent`: half a step to both sides, or a quarter
below a power of two, where the steps change their width. -/
def of (mantissa : Nat) (exponent : Int) : Neighbourhood :=
  let below := if mantissa = hiddenBit ∧ leastExponent < exponent then 1 else 2
  let power := exponent - 2
  let factor := Nat.pow 2 power.toNat
  { value := 4 * mantissa * factor
    low := (4 * mantissa - below) * factor
    high := (4 * mantissa + 2) * factor
    denominator := Nat.pow 2 (-power).toNat
    closed := mantissa % 2 = 0 }

/-- The same neighbourhood measured in units of `10 ^ power`. -/
def inUnits (n : Neighbourhood) (power : Int) : Neighbourhood :=
  let factor := Nat.pow 10 (-power).toNat
  { n with
    value := n.value * factor
    low := n.low * factor
    high := n.high * factor
    denominator := n.denominator * Nat.pow 10 power.toNat }

/-- Whether the whole number `c` lies in the interval. -/
def contains (n : Neighbourhood) (c : Nat) : Bool :=
  let point := c * n.denominator
  if n.closed then n.low ≤ point && point ≤ n.high else n.low < point && point < n.high

/-- The nearest whole number in the interval, if one of the two neighbours of the value is. -/
def nearest (tie : Tie) (n : Neighbourhood) : Option Nat :=
  let floor := n.value / n.denominator
  let rest := n.value % n.denominator
  let down := n.contains floor
  let up := n.contains (floor + 1)
  if down && up then
    if 2 * rest < n.denominator then some floor
    else if n.denominator < 2 * rest then some (floor + 1)
    else match tie with
      | .up => some (floor + 1)
      | .toEven => some (if floor % 2 = 0 then floor else floor + 1)
  else if down then some floor
  else if up then some (floor + 1)
  else none

end Neighbourhood

/-- Drops the zeros at the end of a significand; `fuel` bounds their number. -/
def Digits.trimmed : Nat → Digits → Digits
  | 0, d => d
  | fuel + 1, d =>
    if d.significand % 10 = 0 ∧ d.significand ≠ 0 then
      trimmed fuel ⟨d.significand / 10, d.scale + 1⟩
    else d

/-- The shortest decimal that rounds to the positive number `mantissa · 2 ^ exponent`. Seventeen
digits always suffice for a float, so the last grid tried has a hit. -/
def shortest (tie : Tie) (mantissa : Nat) (exponent : Int) : Digits :=
  let around := Neighbourhood.of mantissa exponent
  let lead := leadingPower around.value around.denominator
  let onGrid (count : Nat) : Option Digits :=
    let power := lead - (count : Int)
    ((around.inUnits power).nearest tie).map fun c => Digits.trimmed 20 ⟨c, power⟩
  ((List.range 18).findSome? onGrid).getD ⟨0, 0⟩

end StageScript.Decimal
