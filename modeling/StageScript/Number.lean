import StageScript.Decimal.Layout

/-!
# Numbers

A number is a float with an integer view. The view is the integer part, kept within 64 bits;
writing the view shifts the float by the same amount, so a fraction survives. Numbers are compared
as floats: not-a-number differs from itself and the two zeros are equal.
-/

namespace StageScript

open Decimal

/-- A float with an integer view. -/
structure Number where
  float : Float
deriving Inhabited

namespace Number

/-- The least integer a view can hold. -/
def leastInt : Int := -(Nat.pow 2 63 : Nat)

/-- The greatest integer a view can hold. -/
def greatestInt : Int := (Nat.pow 2 63 : Nat) - 1

/-- The integer part, kept within 64 bits; not-a-number counts as zero. -/
def int (n : Number) : Int :=
  match Parts.ofFloat n.float with
  | .nan => 0
  | .infinite true => leastInt
  | .infinite false => greatestInt
  | .finite b => max leastInt (min greatestInt b.toInt)

/-- The number of an integer. -/
def ofInt (i : Int) : Number := ⟨Float.ofInt i⟩

/-- Shifts the float so that its integer view becomes `i`. -/
def setInt (n : Number) (i : Int) : Number := ⟨n.float - Float.ofInt (n.int - i)⟩

instance : BEq Number := ⟨fun a b => a.float == b.float⟩

/-- How scripts show a number that has a fraction or is very large: all digits, no exponent. -/
def plainLayout : Layout where
  positional := fun _ => true
  keepsFraction := false
  exponentSign := ""
  tie := .up
  nan := "NaN"
  infinity := "inf"
  negativeInfinity := "-inf"

/-- How a number stands in the description of a value: a fraction is always shown, and the digits
are positional from `0.0001` up to sixteen digits. -/
def describedLayout : Layout where
  positional := fun power => -4 ≤ power && power < 16
  keepsFraction := true
  exponentSign := ""
  tie := .up
  nan := "NaN"
  infinity := "inf"
  negativeInfinity := "-inf"

/-- Whether the number is shown through its integer view: it has no fraction and is below
`10 ^ 15`. -/
def isPlainInteger (n : Number) : Bool :=
  match Parts.ofFloat n.float with
  | .finite b => b.isIntegral && b.truncated < Nat.pow 10 15
  | _ => false

/-- The text a script shows. -/
def display (n : Number) : String :=
  if n.isPlainInteger then toString n.int else plainLayout.write n.float

/-- The text in the description of a value. -/
def describe (n : Number) : String := describedLayout.write n.float

end Number

/-! ### Arithmetic -/

/-- What is left after a division, with the sign of the dividend. -/
def Decimal.floatRemainder (x y : Float) : Float :=
  match Parts.ofFloat x, Parts.ofFloat y with
  | .finite a, .finite b => if b.mantissa = 0 then 0.0 / 0.0 else (a.remainder b).toFloat
  | .finite _, .infinite _ => x
  | _, _ => 0.0 / 0.0

/-- The arithmetic operators of the language. -/
inductive MathOperator where
  | plus
  | minus
  | times
  | divide
  | power
  | modulo
  | squared
deriving DecidableEq, Repr

namespace MathOperator

/-- Whether the operator stands behind a single operand. -/
def isUnary : MathOperator → Bool
  | .squared => true
  | _ => false

/-- The operator on floats; a unary one ignores the right operand. -/
def apply : MathOperator → Float → Float → Float
  | .plus, x, y => x + y
  | .minus, x, y => x - y
  | .times, x, y => x * y
  | .divide, x, y => x / y
  | .power, x, y => Float.pow x y
  | .modulo, x, y => floatRemainder x y
  | .squared, x, _ => x * x

/-- The operator as it is written. -/
def symbol : MathOperator → String
  | .plus => "+"
  | .minus => "-"
  | .times => "*"
  | .divide => "/"
  | .power => "^"
  | .modulo => "%"
  | .squared => "SQUARED"

end MathOperator

end StageScript
