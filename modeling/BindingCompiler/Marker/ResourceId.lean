import BindingCompiler.Text.Numeral

/-!
# `BindingCompiler.Marker.ResourceId`: the ids of views and resources

An id is a 32-bit word. It is written in hexadecimal in generated
source, and the names made from it carry its value as an unsigned
number.

* `ofInt?_eq`: the integers that are ids, and the word of each.
* `suffix_injective`: names made from different ids are different.
-/

set_option autoImplicit false

namespace BindingCompiler

/-- The id of a view or a resource. -/
structure ResourceId where
  bits : BitVec 32
  deriving DecidableEq, Repr, Inhabited

namespace ResourceId

/-- The id that names no resource. -/
def null : ResourceId := ⟨0#32⟩

/-- The id of a view without an id, minus one. -/
def noId : ResourceId := ⟨BitVec.allOnes 32⟩

/-- Whether the id can name a resource. -/
def isWellFormed (id : ResourceId) : Bool := id != null && id != noId

/-- The id as a signed number. -/
def signed (id : ResourceId) : Int := id.bits.toInt

/-- The id of a signed 32-bit number. -/
def ofSigned? (n : Int) : Option ResourceId :=
  if -0x80000000 ≤ n ∧ n < 0x80000000 then some ⟨BitVec.ofInt 32 n⟩ else none

/-- The id of an unsigned 32-bit number, whose word is then read with a sign. -/
def ofUnsigned? (n : Int) : Option ResourceId :=
  if 0 ≤ n ∧ n < 0x100000000 then some ⟨BitVec.ofNat 32 n.toNat⟩ else none

/-- The id of a 32-bit number, signed if it is one and unsigned otherwise. -/
def ofInt? (n : Int) : Option ResourceId :=
  match ofSigned? n with
  | some id => some id
  | none => ofUnsigned? n

/-- The unsigned number, as the names made from an id carry it. -/
def suffix (id : ResourceId) : String := toString id.bits.toNat

/-- The word in hexadecimal, `0x7f0a0001`. -/
def literal (id : ResourceId) : String := "0x" ++ String.ofList (Text.hexNumeral 8 id.bits.toNat)

/-- The two attempts cover one range. A number without a sign has the word that it has with one. -/
theorem ofInt?_eq (n : Int) : ofInt? n
    = if -0x80000000 ≤ n ∧ n < 0x100000000 then some ⟨BitVec.ofInt 32 n⟩ else none := by
  unfold ofInt? ofSigned? ofUnsigned?
  by_cases hsigned : -0x80000000 ≤ n ∧ n < 0x80000000
  · have hrange : -0x80000000 ≤ n ∧ n < 0x100000000 := ⟨hsigned.1, by omega⟩
    rw [if_pos hsigned, if_pos hrange]
  · rw [if_neg hsigned]
    by_cases hunsigned : 0 ≤ n ∧ n < 0x100000000
    · have hrange : -0x80000000 ≤ n ∧ n < 0x100000000 := ⟨by omega, hunsigned.2⟩
      have hword : BitVec.ofNat 32 n.toNat = BitVec.ofInt 32 n := by
        rw [← BitVec.ofInt_natCast, Int.toNat_of_nonneg hunsigned.1]
      rw [if_pos hrange, ← hword]
      exact if_pos hunsigned
    · have hrange : ¬ (-0x80000000 ≤ n ∧ n < 0x100000000) := by omega
      rw [if_neg hrange]
      exact if_neg hunsigned

/-- An id is known by its number. -/
theorem suffix_injective {id other : ResourceId} (h : id.suffix = other.suffix) : id = other := by
  have hnumber : id.bits.toNat = other.bits.toNat := Text.toString_injective h
  obtain ⟨bits⟩ := id
  obtain ⟨bits'⟩ := other
  exact congrArg ResourceId.mk (BitVec.eq_of_toNat_eq hnumber)

end ResourceId

end BindingCompiler
