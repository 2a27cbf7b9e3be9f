import BindingCompiler.Number.Rounding

/-!
# `BindingCompiler.Number.Binary64`: 64-bit floating point numbers

A number is its word: a sign, eleven bits of exponent and 52 bits of
fraction. A finite word stands for a significand times a power of two.
Everything the compiler does with such numbers (reading a numeral,
writing digits, telling integers apart) is exact arithmetic on these
two, with one rounding at the end.
-/

set_option autoImplicit false

namespace BindingCompiler

/-- A floating point number, as its word. -/
structure Binary64 where
  bits : BitVec 64
  deriving DecidableEq, Repr, Inhabited

/-- What a word stands for, its sign aside. -/
inductive Magnitude where
  | nan
  | infinite
  /-- The number `significand * 2 ^ exponent`. -/
  | finite (significand : Nat) (exponent : Int)
  deriving DecidableEq, Repr

namespace Binary64

/-! ### Fields -/

/-- How many fractions there are. -/
def fractionSize : Nat := 0x10000000000000

/-- The sign bit. -/
def isNegative (x : Binary64) : Bool := x.bits.msb

/-- The bits of the exponent. -/
def exponentField (x : Binary64) : Nat := x.bits.toNat / fractionSize % 2048

/-- The bits of the fraction. -/
def fractionField (x : Binary64) : Nat := x.bits.toNat % fractionSize

/-- What a word stands for, its sign aside. -/
def magnitude (x : Binary64) : Magnitude :=
  if x.exponentField = 2047 then if x.fractionField = 0 then .infinite else .nan
  else if x.exponentField = 0 then .finite x.fractionField (-1074)
  else .finite (fractionSize + x.fractionField) (x.exponentField - 1075 : Int)

/-- The word of a sign and the bits below it. -/
def ofFields (isNegative : Bool) (rest : Nat) : Binary64 :=
  ⟨BitVec.ofNat 64 (rest + if isNegative then 0x8000000000000000 else 0)⟩

/-- The infinity of a sign. -/
def infinity (isNegative : Bool) : Binary64 := ofFields isNegative (2047 * fractionSize)

/-- The zero of a sign. -/
def zero (isNegative : Bool) : Binary64 := ofFields isNegative 0

/-- A word that is not a number. -/
def nan : Binary64 := ofFields false (2047 * fractionSize + fractionSize / 2)

/-- The number with the opposite sign. -/
def neg (x : Binary64) : Binary64 := ⟨x.bits ^^^ 0x8000000000000000#64⟩

/-- Whether a word is not a number. -/
def isNaN (x : Binary64) : Bool := x.magnitude == .nan

/-! ### Integers -/

/-- The value of a word that stands for an integer. -/
def toInt? (x : Binary64) : Option Int :=
  match x.magnitude with
  | .finite significand exponent =>
    let signed (n : Nat) : Int := if x.isNegative then -(n : Int) else n
    if 0 ≤ exponent then some (signed (significand * Nat.pow 2 exponent.toNat))
    else
      let scale := Nat.pow 2 (-exponent).toNat
      if significand % scale = 0 then some (signed (significand / scale)) else none
  | _ => none

/-! ### Rounding -/

/-- The word nearest to `num / den`, from a guess at the exponent of the
significand's last bit that is at most one too small. -/
def assemble (isNegative : Bool) (num den : Nat) (guess : Int) : Binary64 :=
  let scaled (q : Int) : Nat × Nat :=
    if 0 ≤ q then (num, den * Nat.pow 2 q.toNat) else (num * Nat.pow 2 (-q).toNat, den)
  -- A significand that is too long shows that the guess was too small.
  let (n, d) := scaled guess
  let exponent := if 2 * fractionSize ≤ n / d then guess + 1 else guess
  let (n, d) := scaled exponent
  let significand := Number.roundedQuotient n d
  -- Rounding up to the next power of two carries into the exponent.
  let rest :=
    if significand < fractionSize then significand
    else (exponent + 1075).toNat * fractionSize + (significand - fractionSize)
  if 2047 * fractionSize ≤ rest then infinity isNegative else ofFields isNegative rest

/-- The word nearest to `num / den`; of two equally near ones, the even one. -/
def nearest (isNegative : Bool) (num den : Nat) : Binary64 :=
  if num = 0 then zero isNegative
  else
    assemble isNegative num den
      (max (-1074) ((num.log2 : Int) - (den.log2 : Int) - 53))

/-- The word nearest to `significand * base ^ exponent`. An exponent out
of all proportion to the digits of the significand is not computed with. -/
def scaled (isNegative : Bool) (significand base : Nat) (exponent : Int) : Binary64 :=
  let size : Int := significand.log2
  if significand = 0 then zero isNegative
  else if 1100 < exponent then infinity isNegative
  else if exponent < -(size + 1100) then zero isNegative
  else if 0 ≤ exponent then nearest isNegative (significand * Nat.pow base exponent.toNat) 1
  else nearest isNegative significand (Nat.pow base (-exponent).toNat)

end Binary64

end BindingCompiler
