/-!
# Floats as exact numbers

A finite float is `± mantissa · 2 ^ exponent` with natural numbers, so that questions about it
(is it integral, what is its integer part, what is left after a division) are answered without
rounding. `Parts.ofFloat` takes a float apart by its bit pattern, `Binary.toFloat` puts one
together again.
-/

namespace StageScript.Decimal

/-- The number `± mantissa · 2 ^ exponent`. -/
structure Binary where
  negative : Bool
  mantissa : Nat
  exponent : Int
deriving DecidableEq, Repr, Inhabited

/-- What a float is: no number, an infinity, or a finite number. -/
inductive Parts where
  | nan
  | infinite (negative : Bool)
  | finite (number : Binary)
deriving DecidableEq, Repr, Inhabited

/-- The exponent of the smallest positive float, `2 ^ -1074`. -/
def leastExponent : Int := -1074

/-- The hidden bit of a normal mantissa. -/
def hiddenBit : Nat := Nat.pow 2 52

/-- A float from the three fields of its bit pattern. -/
def Parts.ofFields (negative : Bool) (biased fraction : Nat) : Parts :=
  if biased = 2047 then
    if fraction = 0 then .infinite negative else .nan
  else if biased = 0 then .finite ⟨negative, fraction, leastExponent⟩
  else .finite ⟨negative, hiddenBit + fraction, (biased : Int) - 1075⟩

/-- The float taken apart. -/
def Parts.ofFloat (x : Float) : Parts :=
  let bits := x.toBits.toNat
  .ofFields (bits / Nat.pow 2 63 = 1) (bits / hiddenBit % 2048) (bits % hiddenBit)

/-- Whether the float is neither infinite nor undefined. -/
def Parts.isFinite : Parts → Bool
  | .finite _ => true
  | _ => false

namespace Binary

/-- The integer part of the magnitude. -/
def truncated (b : Binary) : Nat :=
  if 0 ≤ b.exponent then b.mantissa * Nat.pow 2 b.exponent.toNat
  else b.mantissa / Nat.pow 2 (-b.exponent).toNat

/-- Whether nothing stands behind the point. -/
def isIntegral (b : Binary) : Bool :=
  0 ≤ b.exponent || b.mantissa % Nat.pow 2 (-b.exponent).toNat = 0

/-- The integer part, with its sign. -/
def toInt (b : Binary) : Int :=
  if b.negative then -(b.truncated : Int) else b.truncated

/-- The bit pattern of a magnitude whose mantissa has at most 53 bits and whose exponent is at
least `leastExponent`: the mantissa is shifted up as far as the exponent allows. -/
def magnitudeBits (mantissa : Nat) (exponent : Int) : Nat :=
  let shift := min (52 - mantissa.log2) (exponent - leastExponent).toNat
  let shifted := mantissa * Nat.pow 2 shift
  let lowered := exponent - shift
  if shifted < hiddenBit then shifted
  else min ((lowered + 1075).toNat * hiddenBit + (shifted - hiddenBit)) (2047 * hiddenBit)

/-- The float of an exactly representable number. -/
def toFloat (b : Binary) : Float :=
  let bits := if b.mantissa = 0 then 0 else magnitudeBits b.mantissa b.exponent
  Float.ofBits (UInt64.ofNat (if b.negative then bits + Nat.pow 2 63 else bits))

/-- What is left of `a` after taking away as many whole `b` as fit, with the sign of `a`. Both
magnitudes are written as multiples of the smaller power of two, so the result is exact. -/
def remainder (a b : Binary) : Binary :=
  let exponent := min a.exponent b.exponent
  let left := a.mantissa * Nat.pow 2 (a.exponent - exponent).toNat
  let right := b.mantissa * Nat.pow 2 (b.exponent - exponent).toNat
  ⟨a.negative, left % right, exponent⟩

end Binary

end StageScript.Decimal
