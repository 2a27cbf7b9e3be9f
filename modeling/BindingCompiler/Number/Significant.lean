import BindingCompiler.Number.Binary64

/-!
# `BindingCompiler.Number.Significant`: numbers with fourteen digits

A floating point number is written with its fourteen leading digits,
rounded from the exact value, and without the zeros at their end. It is
written positionally unless it is smaller than a ten-thousandth or has
more than fourteen digits before the point; then it has one digit
before the point and an exponent of two digits or more.
-/

set_option autoImplicit false

namespace BindingCompiler.Number

/-- How many digits are written. -/
def precision : Nat := 14

/-- The number of decimal digits of a positive integer; zero has none. -/
def digitCount (n : Nat) : Nat := if n = 0 then 0 else (Nat.toDigits 10 n).length

/-- The exponent of the power of ten at or below `num / den`. -/
def decimalExponent (num den : Nat) : Int :=
  if den ≤ num then digitCount (num / den) - 1
  else -(digitCount ((den + num - 1) / num - 1) : Int)

/-- The digits of `num / den` from the place `10 ^ exponent` on, as an integer. -/
def leadingDigits (num den : Nat) (exponent : Int) : Nat :=
  let shift : Int := precision - 1 - exponent
  if 0 ≤ shift then roundedQuotient (num * Nat.pow 10 shift.toNat) den
  else roundedQuotient num (den * Nat.pow 10 (-shift).toNat)

/-- The leading digits of a positive `num / den` with their exponent;
rounding up to the next power of ten moves the exponent. -/
def scientific (num den : Nat) : Nat × Int :=
  let exponent := decimalExponent num den
  let digits := leadingDigits num den exponent
  if digits = Nat.pow 10 precision then (Nat.pow 10 (precision - 1), exponent + 1)
  else (digits, exponent)

/-- Digits without the zeros at their end. -/
def trimZeros (digits : List Char) : List Char := (digits.reverse.dropWhile (· == '0')).reverse

/-- A whole part and a fraction, with a point between unless the fraction is empty. -/
def pointed (whole fraction : List Char) : List Char :=
  match trimZeros fraction with
  | [] => whole
  | fraction => whole ++ '.' :: fraction

/-- An exponent with its sign and at least two digits. -/
def exponentText (exponent : Int) : List Char :=
  let digits := Nat.toDigits 10 exponent.natAbs
  'e' :: (if exponent < 0 then '-' else '+') :: (if digits.length < 2 then '0' :: digits else digits)

/-- Leading digits and their exponent, written. -/
def layout (digits : List Char) (exponent : Int) : List Char :=
  if exponent < -4 ∨ (precision : Int) ≤ exponent then
    pointed (digits.take 1) (digits.drop 1) ++ exponentText exponent
  else if exponent < 0 then
    pointed ['0'] (List.replicate ((-exponent).toNat - 1) '0' ++ digits)
  else pointed (digits.take (exponent.toNat + 1)) (digits.drop (exponent.toNat + 1))

/-- A magnitude, written. -/
def magnitudeText : Magnitude → List Char
  | .nan => "nan".toList
  | .infinite => "inf".toList
  | .finite significand exponent =>
    if significand = 0 then ['0']
    else
      let (digits, exponent) :=
        if 0 ≤ exponent then scientific (significand * Nat.pow 2 exponent.toNat) 1
        else scientific significand (Nat.pow 2 (-exponent).toNat)
      layout (Nat.toDigits 10 digits) exponent

/-- A floating point number with fourteen digits. -/
def significantText (x : Binary64) : String :=
  String.ofList ((if x.isNegative then ['-'] else []) ++ magnitudeText x.magnitude)

end BindingCompiler.Number
