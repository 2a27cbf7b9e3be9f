/-!
# `BindingCompiler.Number.Rounding`: quotients to the nearest integer

`roundedQuotient num den` is the integer nearest to `num / den`, and of
two equally near ones the even one. Both the digits of a number that is
written and the significand of a number that is read come from it.

* `roundedQuotient_of_dvd`: an exact quotient is not changed.
* `two_mul_roundedQuotient_le`, `le_two_mul_roundedQuotient`: the result
  is at most one half away.
-/

set_option autoImplicit false

namespace BindingCompiler.Number

/-- The integer nearest to `num / den`; a tie goes to the even neighbour. -/
def roundedQuotient (num den : Nat) : Nat :=
  if 2 * (num % den) < den ∨ (2 * (num % den) = den ∧ num / den % 2 = 0) then num / den
  else num / den + 1

/-- An exact quotient is not changed. -/
theorem roundedQuotient_of_dvd {num den : Nat} (hden : 0 < den) (h : den ∣ num) :
    roundedQuotient num den = num / den := by
  unfold roundedQuotient
  rw [Nat.mod_eq_zero_of_dvd h]
  exact if_pos (Or.inl (by omega))

/-- The result exceeds the quotient by at most one half. -/
theorem two_mul_roundedQuotient_le (num den : Nat) :
    2 * (den * roundedQuotient num den) ≤ 2 * num + den := by
  have hdiv := Nat.div_add_mod num den
  unfold roundedQuotient
  split
  · omega
  · rename_i h
    rw [Nat.mul_add, Nat.mul_one]
    omega

/-- The result falls short of the quotient by at most one half. -/
theorem le_two_mul_roundedQuotient {den : Nat} (num : Nat) (hden : 0 < den) :
    2 * num ≤ 2 * (den * roundedQuotient num den) + den := by
  have hdiv := Nat.div_add_mod num den
  have hmod := Nat.mod_lt num hden
  unfold roundedQuotient
  split
  · rename_i h
    omega
  · rw [Nat.mul_add, Nat.mul_one]
    omega

end BindingCompiler.Number
