/-!
# `BindingCompiler.Text.Numeral`: numbers in decimal and hexadecimal

* `hexNumeral_length`: a hexadecimal numeral of `n` places has exactly
  `n` digits.
* `isDigit_of_mem_toString`, `toString_injective`: a decimal numeral is
  made of digits, and a number is known by it.
-/

set_option autoImplicit false

namespace BindingCompiler.Text

/-- The digit with the value `n`, for `n` below 16, in lower case. -/
def hexDigit (n : Nat) : Char :=
  if n < 10 then Char.ofNat (0x30 + n) else Char.ofNat (0x57 + n)

/-- The last `places` hexadecimal digits of `n`. -/
def hexNumeral : (places n : Nat) → List Char
  | 0, _ => []
  | places + 1, n => hexNumeral places (n / 16) ++ [hexDigit (n % 16)]

/-- The value of a hexadecimal digit, in either case. -/
def hexValue? (c : Char) : Option Nat :=
  if '0' ≤ c && c ≤ '9' then some (c.toNat - 0x30)
  else if 'a' ≤ c && c ≤ 'f' then some (c.toNat - 0x57)
  else if 'A' ≤ c && c ≤ 'F' then some (c.toNat - 0x37)
  else none

/-- The value of a decimal digit. -/
def decimalValue? (c : Char) : Option Nat :=
  if '0' ≤ c && c ≤ '9' then some (c.toNat - 0x30) else none

/-- A numeral has as many digits as it has places. -/
theorem hexNumeral_length (places n : Nat) : (hexNumeral places n).length = places := by
  induction places generalizing n with
  | zero => rfl
  | succ places ih => simp [hexNumeral, ih]

/-- A number is written in digits. -/
theorem isDigit_of_mem_toString {n : Nat} {c : Char} (hc : c ∈ (toString n).toList) :
    c.isDigit = true := by
  rw [Nat.toString_eq_repr, Nat.toList_repr] at hc
  exact Nat.isDigit_of_mem_toDigits (by decide) (by decide) hc

/-- A number is known by its digits. -/
theorem toString_injective {m n : Nat} (h : toString m = toString n) : m = n := by
  -- A numeral is read back as its number.
  have hvalue := congrArg (fun text => Nat.ofDigitChars 10 text.toList 0) h
  simp only [Nat.toString_eq_repr, Nat.toList_repr, Nat.ofDigitChars_ten_toDigits] at hvalue
  exact hvalue

end BindingCompiler.Text
