import BindingCompiler.Declaration.Reader
import BindingCompiler.Number.Numeral
import BindingCompiler.Plan.Naming
import BindingCompiler.Source.BindingClass
import Mathlib.Data.Int.ModEq

/-!
# `BindingCompiler.Proofs.Declaration.Ids`: from integers to the names of views

A script gives an id as an integer of 64 bits. It is an id if it is a number of 32 bits, with a
sign or without one, and the id is the word of the number. The word is printed without a sign, in
hexadecimal in messages and in decimal in the names of fields and variables.

* `digitsValue_hexNumeral`: a hexadecimal numeral is worth its number, as far as its places go.
* `resourceId_integer_eq`: the integers that are ids, and the word of each.
* `Denotes`: what an id keeps of its number. The number is known up to multiples of `2 ^ 32`, and
  both printers give the remainder.
* `resourceId_integer_keeps_word`: so two integers that are ids share the field and the variable
  of their view exactly if they differ by a multiple of `2 ^ 32`. The integers `-1` and
  `2 ^ 32 - 1` do.
-/

set_option autoImplicit false

namespace BindingCompiler

/-! ### Hexadecimal numerals -/

section
open Text Number

/-- A digit has the value that it is written for. -/
theorem hexValue?_hexDigit : ∀ n < 16, hexValue? (hexDigit n) = some n := by decide

/-- A numeral of some places has the value of its number without what needs more places. -/
theorem digitsValue_hexNumeral (places n : Nat) :
    hexadecimal.digitsValue (hexNumeral places n) = n % 16 ^ places := by
  -- The last digit is the remainder, and the digits before it are the numeral of the quotient.
  induction places generalizing n with
  | zero =>
      rw [Nat.pow_zero, Nat.mod_one]
      rfl
  | succ places ih =>
      have hlast : hexadecimal.digitsValue [hexDigit (n % 16)] = n % 16 := by
        show 0 * 16 + (hexValue? (hexDigit (n % 16))).getD 0 = n % 16
        rw [hexValue?_hexDigit _ (Nat.mod_lt n (by decide)), Nat.zero_mul, Nat.zero_add]
        rfl
      have hshift : Nat.pow hexadecimal.base [hexDigit (n % 16)].length = 16 := rfl
      rw [hexNumeral, Radix.digitsValue_append, ih, hlast, hshift, Nat.pow_succ,
        Nat.mul_comm (16 ^ places) 16, Nat.mod_mul]
      omega

/-- A numeral has hexadecimal digits only. -/
theorem isDigit_of_mem_hexNumeral {places n : Nat} {c : Char} (h : c ∈ hexNumeral places n) :
    hexadecimal.isDigit c = true := by
  induction places generalizing n with
  | zero => exact absurd h (by simp [hexNumeral])
  | succ places ih =>
      rw [hexNumeral, List.mem_append, List.mem_singleton] at h
      rcases h with h | rfl
      · exact ih h
      · show (hexValue? (hexDigit (n % 16))).isSome = true
        rw [hexValue?_hexDigit _ (Nat.mod_lt n (by decide))]
        rfl

end

/-! ### Words -/

namespace ResourceId

/-- The id keeps of the number what a word can keep: its own number with a sign differs from it by
a multiple of `2 ^ 32`, and it is printed as the remainder, with eight hexadecimal digits in
messages and in decimal in names. -/
structure Denotes (id : ResourceId) (n : Int) : Prop where
  signed_modEq : id.signed ≡ n [ZMOD 2 ^ 32]
  literal_eq : ∃ digits, id.literal = "0x" ++ String.ofList digits ∧ digits.length = 8
    ∧ (∀ c ∈ digits, Number.hexadecimal.isDigit c = true)
    ∧ (Number.hexadecimal.digitsValue digits : Int) = n % 2 ^ 32
  suffix_eq : id.suffix = toString (n % 2 ^ 32)

/-- The word of a number without a sign is the remainder of the number. -/
theorem toNat_ofInt_eq_emod (n : Int) : ((BitVec.ofInt 32 n).toNat : Int) = n % 2 ^ 32 := by
  rw [BitVec.toNat_ofInt]
  omega

/-- The word of a number denotes it. -/
theorem denotes_ofInt (n : Int) : Denotes ⟨BitVec.ofInt 32 n⟩ n where
  signed_modEq := by
    show (BitVec.ofInt 32 n).toInt % 2 ^ 32 = n % 2 ^ 32
    rw [BitVec.toInt_ofInt]
    exact Int.bmod_emod
  literal_eq := by
    refine ⟨_, rfl, Text.hexNumeral_length _ _, fun c => isDigit_of_mem_hexNumeral, ?_⟩
    -- Eight places are as many as a word needs.
    have hword : (BitVec.ofInt 32 n).toNat % 16 ^ 8 = (BitVec.ofInt 32 n).toNat :=
      Nat.mod_eq_of_lt (BitVec.isLt _)
    rw [digitsValue_hexNumeral, hword, toNat_ofInt_eq_emod]
  suffix_eq := by
    rw [← toNat_ofInt_eq_emod]
    rfl

/-- Ids have the same name exactly if their numbers differ by a multiple of `2 ^ 32`. -/
theorem suffix_eq_suffix_iff {id other : ResourceId} {m n : Int} (hid : id.Denotes m)
    (hother : other.Denotes n) : id.suffix = other.suffix ↔ m ≡ n [ZMOD 2 ^ 32] := by
  constructor
  · intro h
    -- The two ids are one, and what it denotes differs by a multiple from its own number.
    have hsame : id = other := suffix_injective h
    subst hsame
    exact hid.signed_modEq.symm.trans hother.signed_modEq
  · intro h
    rw [hid.suffix_eq, hother.suffix_eq, h.eq]

end ResourceId

/-! ### Ids in scripts -/

namespace Declaration

open Script

/-- An integer is an id if it is a number of 32 bits, with a sign or without one. -/
theorem resourceId_integer_eq (n : Int64) :
    resourceId (.integer n)
      = if -2 ^ 31 ≤ n.toInt ∧ n.toInt ≤ 2 ^ 32 - 1 then .ok ⟨BitVec.ofInt 32 n.toInt⟩
        else .error (.idOutOfRange n.toInt) := by
  have hbounds : (-0x80000000 ≤ n.toInt ∧ n.toInt < 0x100000000)
      ↔ -2 ^ 31 ≤ n.toInt ∧ n.toInt ≤ 2 ^ 32 - 1 := by omega
  rw [resourceId_integer, ResourceId.ofInt?_eq]
  simp only [hbounds]
  by_cases h : -2 ^ 31 ≤ n.toInt ∧ n.toInt ≤ 2 ^ 32 - 1
  · rw [if_pos h, if_pos h]
  · rw [if_neg h, if_neg h]

/-- An id that an integer is read into denotes it. -/
theorem denotes_of_resourceId {n : Int64} {id : ResourceId}
    (h : resourceId (.integer n) = .ok id) : id.Denotes n.toInt := by
  rw [resourceId_integer_eq] at h
  split at h
  · cases h
    exact ResourceId.denotes_ofInt n.toInt
  · exact absurd h (by simp)

/-- The integers that are ids are those of 32 bits, with a sign or without one, and each is read
into an id that denotes it. Two of them have ids with the same name exactly if they differ by a
multiple of `2 ^ 32`, and so with the same field and the same variable for the view. -/
theorem resourceId_integer_keeps_word :
    (∀ n : Int64, (∃ id, resourceId (.integer n) = .ok id)
        ↔ -2 ^ 31 ≤ n.toInt ∧ n.toInt ≤ 2 ^ 32 - 1)
      ∧ (∀ (n : Int64) (id : ResourceId), resourceId (.integer n) = .ok id → id.Denotes n.toInt)
      ∧ ∀ (m n : Int64) (id other : ResourceId), resourceId (.integer m) = .ok id →
        resourceId (.integer n) = .ok other →
          (id.suffix = other.suffix ↔ m.toInt ≡ n.toInt [ZMOD 2 ^ 32])
            ∧ (viewField id = viewField other ↔ m.toInt ≡ n.toInt [ZMOD 2 ^ 32])
            ∧ (Source.viewLocal id = Source.viewLocal other
              ↔ m.toInt ≡ n.toInt [ZMOD 2 ^ 32]) := by
  refine ⟨fun n => ?_, fun n id => denotes_of_resourceId, fun m n id other hid hother => ?_⟩
  · rw [resourceId_integer_eq]
    constructor
    · rintro ⟨id, hid⟩
      by_contra hbounds
      rw [if_neg hbounds] at hid
      exact absurd hid (by simp)
    · intro hbounds
      exact ⟨_, if_pos hbounds⟩
  · have hsuffix := ResourceId.suffix_eq_suffix_iff (denotes_of_resourceId hid)
      (denotes_of_resourceId hother)
    refine ⟨hsuffix, ?_, ?_⟩
    · rw [← hsuffix]
      exact String.append_right_inj _
    · rw [← hsuffix]
      exact String.append_right_inj _

/-- At the ends of the two ranges: minus one and the greatest number without a sign are one id,
and so are the least number with a sign and the first that needs the top bit. The numbers next to
the ends are no ids. -/
theorem resourceId_integer_keeps_word_ends :
    (∃ id other, resourceId (.integer (-1)) = .ok id
        ∧ resourceId (.integer 0xffffffff) = .ok other
        ∧ id.suffix = "4294967295" ∧ viewField id = viewField other)
      ∧ (∃ id other, resourceId (.integer (-0x80000000)) = .ok id
        ∧ resourceId (.integer 0x80000000) = .ok other
        ∧ id.signed ≡ 0x80000000 [ZMOD 2 ^ 32] ∧ Source.viewLocal id = Source.viewLocal other)
      ∧ (¬ ∃ id, resourceId (.integer (-0x80000001)) = .ok id)
      ∧ ¬ ∃ id, resourceId (.integer 0x100000000) = .ok id := by
  obtain ⟨haccepted, hdenotes, hnames⟩ := resourceId_integer_keeps_word
  have hminus : resourceId (.integer (-1)) = .ok ⟨0xffffffff#32⟩ := by decide
  have hgreatest : resourceId (.integer 0xffffffff) = .ok ⟨0xffffffff#32⟩ := by decide
  have hleast : resourceId (.integer (-0x80000000)) = .ok ⟨0x80000000#32⟩ := by decide
  have htop : resourceId (.integer 0x80000000) = .ok ⟨0x80000000#32⟩ := by decide
  refine ⟨⟨_, _, hminus, hgreatest, ?_, ?_⟩, ⟨_, _, hleast, htop, ?_, ?_⟩, ?_, ?_⟩
  · exact (hdenotes _ _ hminus).suffix_eq
  · exact (hnames _ _ _ _ hminus hgreatest).2.1.mpr (by decide)
  · exact (hdenotes _ _ htop).signed_modEq
  · exact (hnames _ _ _ _ hleast htop).2.2.mpr (by decide)
  · rw [haccepted]
    decide
  · rw [haccepted]
    decide

end Declaration

end BindingCompiler
