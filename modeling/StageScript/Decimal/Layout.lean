import StageScript.Decimal.Shortest

/-!
# Written forms of a float

A `Layout` collects the decisions of one written form: from where to where the digits are written
positionally, whether a fraction is always shown, how the exponent is signed, which way ties go and
what stands for the values that are no finite number. `Layout.write` lays out the shortest digits
accordingly.
-/

namespace StageScript.Decimal

/-- The decisions of a written form. -/
structure Layout where
  /-- The leading powers of ten that are written without an exponent. -/
  positional : Int → Bool
  /-- Whether a whole number keeps `.0` in positional form. -/
  keepsFraction : Bool
  /-- What stands before a positive exponent. -/
  exponentSign : String
  tie : Tie
  nan : String
  infinity : String
  negativeInfinity : String

/-- The digits with the point after `whole` of them, filled with zeros on either side. -/
def positionalText (digits : List Char) (whole : Int) (keepsFraction : Bool) : List Char :=
  let left :=
    if whole ≤ 0 then ['0']
    else digits.take whole.toNat ++ List.replicate (whole.toNat - digits.length) '0'
  let right :=
    if whole ≤ 0 then List.replicate (-whole).toNat '0' ++ digits else digits.drop whole.toNat
  if right.isEmpty then
    if keepsFraction then left ++ ['.', '0'] else left
  else left ++ '.' :: right

/-- One digit, the others behind the point, then the exponent. -/
def exponentText (digits : List Char) (power : Int) (sign : String) : List Char :=
  let mark := if power < 0 then ['e', '-'] else 'e' :: sign.toList
  let tail := if digits.length ≤ 1 then [] else '.' :: digits.drop 1
  digits.take 1 ++ tail ++ mark ++ Nat.toDigits 10 power.natAbs

/-- A positive decimal laid out. -/
def Layout.digits (l : Layout) (d : Digits) : List Char :=
  let digits := Nat.toDigits 10 d.significand
  let power := d.scale + digits.length - 1
  if l.positional power then positionalText digits (power + 1) l.keepsFraction
  else exponentText digits power l.exponentSign

/-- The magnitude laid out; zero is always positional. -/
def Layout.magnitude (l : Layout) (mantissa : Nat) (exponent : Int) : List Char :=
  if mantissa = 0 then positionalText ['0'] 1 l.keepsFraction
  else l.digits (shortest l.tie mantissa exponent)

/-- The written form of a float. -/
def Layout.write (l : Layout) (x : Float) : String :=
  match Parts.ofFloat x with
  | .nan => l.nan
  | .infinite true => l.negativeInfinity
  | .infinite false => l.infinity
  | .finite b =>
    let text := l.magnitude b.mantissa b.exponent
    String.ofList (if b.negative then '-' :: text else text)

end StageScript.Decimal
