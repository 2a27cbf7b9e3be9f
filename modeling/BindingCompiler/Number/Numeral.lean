import BindingCompiler.Number.Binary64
import BindingCompiler.Text.Numeral

/-!
# `BindingCompiler.Number.Numeral`: reading numerals

A numeral has digits, which a point may stand among, and may end in a
mark and an exponent. In the decimal system the exponent counts powers
of ten. In the hexadecimal system it counts powers of two, and each
digit after the point takes four of them away.

* `digitsValue_append`: digits in a row are worth the front ones,
  shifted, and the rest.
-/

set_option autoImplicit false

namespace BindingCompiler.Number

/-- A way of writing numbers. -/
structure Radix where
  base : Nat
  digit? : Char → Option Nat
  /-- The characters that an exponent starts with. -/
  marks : List Char
  /-- What the exponent counts powers of. -/
  scale : Nat
  /-- How many of these powers a digit after the point takes away. -/
  perPlace : Nat

/-- Decimal numerals. -/
def decimal : Radix where
  base := 10
  digit? := Text.decimalValue?
  marks := ['e', 'E']
  scale := 10
  perPlace := 1

/-- Hexadecimal numerals, without what announces them. -/
def hexadecimal : Radix where
  base := 16
  digit? := Text.hexValue?
  marks := ['p', 'P']
  scale := 2
  perPlace := 4

namespace Radix

/-- Whether a character is a digit. -/
def isDigit (r : Radix) (c : Char) : Bool := (r.digit? c).isSome

/-- The value of a row of digits that follows digits worth `n`. -/
def continueDigits (r : Radix) (n : Nat) (ds : List Char) : Nat :=
  ds.foldl (fun n c => n * r.base + (r.digit? c).getD 0) n

/-- The value of a row of digits. -/
def digitsValue (r : Radix) (ds : List Char) : Nat := r.continueDigits 0 ds

/-- Digits in front are shifted by those that follow. -/
theorem continueDigits_eq (r : Radix) (n : Nat) (ds : List Char) :
    r.continueDigits n ds = n * Nat.pow r.base ds.length + r.digitsValue ds := by
  induction ds generalizing n with
  | nil => simp [continueDigits, digitsValue]
  | cons c ds ih =>
      have hstep (m : Nat) : r.continueDigits m (c :: ds)
          = r.continueDigits (m * r.base + (r.digit? c).getD 0) ds := rfl
      have hpow (k : Nat) : Nat.pow r.base (k + 1) = Nat.pow r.base k * r.base := rfl
      rw [digitsValue, hstep, hstep, ih, ih (0 * r.base + _), List.length_cons, hpow,
        Nat.zero_mul, Nat.zero_add, Nat.add_mul, Nat.mul_assoc, Nat.mul_comm (Nat.pow r.base _),
        Nat.add_assoc]

/-- Digits in a row are worth the front ones, shifted, and the rest. -/
theorem digitsValue_append (r : Radix) (front back : List Char) :
    r.digitsValue (front ++ back)
      = r.digitsValue front * Nat.pow r.base back.length + r.digitsValue back := by
  rw [← continueDigits_eq]
  exact List.foldl_append

end Radix

/-- The exponent that a text consists of: decimal digits, after a sign or not. -/
def exponent? (cs : List Char) : Option Int :=
  let (isNegative, ds) :=
    match cs with
    | '-' :: ds => (true, ds)
    | '+' :: ds => (false, ds)
    | ds => (false, ds)
  if ds.isEmpty || !ds.all decimal.isDigit then none
  else
    let n : Int := decimal.digitsValue ds
    some (if isNegative then -n else n)

/-- The number that a text without a sign is a numeral of. -/
def unsigned? (r : Radix) (isNegative : Bool) (cs : List Char) : Option Binary64 :=
  let whole := cs.takeWhile r.isDigit
  let rest := cs.dropWhile r.isDigit
  let (fraction, rest) :=
    match rest with
    | '.' :: rest => (rest.takeWhile r.isDigit, rest.dropWhile r.isDigit)
    | rest => ([], rest)
  let value (exponent : Int) : Binary64 :=
    .scaled isNegative (r.digitsValue (whole ++ fraction)) r.scale
      (exponent - r.perPlace * fraction.length)
  if whole.isEmpty && fraction.isEmpty then none
  else
    match rest with
    | [] => some (value 0)
    | mark :: rest => if r.marks.contains mark then (exponent? rest).map value else none

/-- The number of a decimal text with or without a sign, or of the words for
the numbers that have no digits. -/
def signed? (cs : List Char) : Option Binary64 :=
  let (isNegative, cs) :=
    match cs with
    | '-' :: cs => (true, cs)
    | '+' :: cs => (false, cs)
    | cs => (false, cs)
  match String.ofList cs with
  | "inf" => some (.infinity isNegative)
  | "NaN" => some .nan
  | _ => unsigned? decimal isNegative cs

end BindingCompiler.Number
