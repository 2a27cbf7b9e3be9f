import BindingCompiler.Script.Quoted
import BindingCompiler.Script.Value

/-!
# `BindingCompiler.Script.Numeral`: the numerals of a script

Decimal digits alone are an integer if it has 64 bits, and hexadecimal
digits alone are the integer of their last 64 bits. Every other numeral
is a floating point number.

Where a number is needed, a string with a numeral in it will do. There
the numeral can have a sign, and white space around it.
-/

set_option autoImplicit false

namespace BindingCompiler.Script

/-- The hexadecimal digits of a numeral that is announced as such. -/
def hexDigits? : List Char → Option (List Char)
  | '0' :: 'x' :: ds | '0' :: 'X' :: ds => some ds
  | _ => none

/-- A number of digits with its sign, if it is an integer of 64 bits. -/
def signedInteger? (isNegative : Bool) (n : Nat) : Option Int64 :=
  let signed : Int := if isNegative then -n else n
  if Int64.minValue.toInt ≤ signed ∧ signed ≤ Int64.maxValue.toInt then
    some (Int64.ofInt signed)
  else none

/-- An integer has the value of its digits and sign. -/
theorem toInt_signedInteger? {isNegative : Bool} {n : Nat} {i : Int64}
    (h : signedInteger? isNegative n = some i) :
    i.toInt = if isNegative then -(n : Int) else n := by
  unfold signedInteger? at h
  dsimp only at h
  generalize (if isNegative then -(n : Int) else n) = signed at h ⊢
  split at h
  · rename_i hbounds
    simp only [Option.some.injEq] at h
    have hmin : Int64.minValue.toInt = -9223372036854775808 := by decide
    have hmax : Int64.maxValue.toInt = 9223372036854775807 := by decide
    rw [← h]
    exact Int64.toInt_ofInt_of_le (by omega) (by omega)
  · exact absurd h (by simp)

/-- The value of a numeral with a sign in front or not. -/
def numeralValue? (isNegative : Bool) (cs : List Char) : Option Value :=
  match hexDigits? cs with
  | some ds =>
    if !ds.isEmpty && ds.all Number.hexadecimal.isDigit then
      let n : Int := Number.hexadecimal.digitsValue ds
      some (.integer (Int64.ofInt (if isNegative then -n else n)))
    else (Number.unsigned? Number.hexadecimal isNegative ds).map Value.float
  | none =>
    let integer? :=
      if !cs.isEmpty && cs.all Number.decimal.isDigit then
        signedInteger? isNegative (Number.decimal.digitsValue cs)
      else none
    match integer? with
    | some n => some (.integer n)
    | none => (Number.unsigned? Number.decimal isNegative cs).map Value.float

/-- The value of a numeral in a source. -/
def numeral? (cs : List Char) : Option Value := numeralValue? false cs

/-- The number that a string holds. -/
def heldNumber? (bytes : List UInt8) : Option Value :=
  let cs := (bytes.map fun b => Char.ofNat b.toNat).dropWhile isSpace
  let cs := (cs.reverse.dropWhile isSpace).reverse
  match cs with
  | '-' :: cs => numeralValue? true cs
  | '+' :: cs => numeralValue? false cs
  | cs => numeralValue? false cs

/-- A value where a number is needed: itself, or the number that it holds. -/
def Value.toNumber? : Value → Option Value
  | .integer n => some (.integer n)
  | .float x => some (.float x)
  | .string bytes => heldNumber? bytes
  | _ => none

end BindingCompiler.Script
