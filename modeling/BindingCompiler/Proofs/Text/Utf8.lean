import BindingCompiler.Text.Utf8
import Mathlib.Data.List.Basic

/-!
# `BindingCompiler.Proofs.Text.Utf8`: reading and writing are inverse

`decode_eq_ok_iff` says that bytes read as a text exactly if they are the bytes that the text
is written with. So a text that is written is read back, and no other bytes read as the same
text: what is well formed is also the shortest form, and no surrogate can be written.

The reader looks at a first byte, which tells the number of bytes, at a second one, whose
range depends on the first, and at continuation bytes. Both directions go one character at a
time (`utf8Head_utf8EncodeChar`, `utf8EncodeChar_of_utf8Head`), and by the number of its
bytes. Bytes are compared as natural numbers, where the shifts of the encoding are products
and remainders.
-/

set_option autoImplicit false

namespace BindingCompiler.Text

/-! ### Bytes as numbers -/

/-- The number of bytes, by the value of the first. -/
theorem utf8Width_eq_some_iff {b : UInt8} {width : Nat} : utf8Width b = some width
    ↔ (width = 1 ∧ b.toNat < 0x80) ∨ (width = 2 ∧ 0xC2 ≤ b.toNat ∧ b.toNat ≤ 0xDF)
      ∨ (width = 3 ∧ 0xE0 ≤ b.toNat ∧ b.toNat ≤ 0xEF)
      ∨ (width = 4 ∧ 0xF0 ≤ b.toNat ∧ b.toNat ≤ 0xF4) := by
  simp only [utf8Width, UInt8.lt_iff_toNat_lt, UInt8.le_iff_toNat_le, UInt8.reduceToNat,
    Bool.and_eq_true, decide_eq_true_eq]
  repeat' split
  all_goals
    simp only [Option.some.injEq, reduceCtorEq, false_iff]
    omega

/-- A continuation byte is one from `0x80` up to `0xBF`. -/
theorem isContinuation_iff {b : UInt8} :
    isContinuation b = true ↔ 0x80 ≤ b.toNat ∧ b.toNat ≤ 0xBF := by
  simp [isContinuation, UInt8.le_iff_toNat_le]

/-- What a second byte can be: a continuation byte, but for the sequences that would be too
long, that would stand for surrogates, or that would pass the last character. -/
theorem secondByte_iff (first second : UInt8) :
    ((secondByteRange first).1 ≤ second && second ≤ (secondByteRange first).2) = true
      ↔ isContinuation second = true
        ∧ (first.toNat = 0xE0 → 0xA0 ≤ second.toNat) ∧ (first.toNat = 0xED → second.toNat ≤ 0x9F)
        ∧ (first.toNat = 0xF0 → 0x90 ≤ second.toNat)
        ∧ (first.toNat = 0xF4 → second.toNat ≤ 0x8F) := by
  have hrange (low high : UInt8) : (decide (low ≤ second) && decide (second ≤ high)) = true
      ↔ low.toNat ≤ second.toNat ∧ second.toNat ≤ high.toNat := by
    simp [UInt8.le_iff_toNat_le]
  unfold secondByteRange
  simp only [isContinuation_iff, beq_iff_eq, ← UInt8.toNat_inj, UInt8.reduceToNat]
  -- One case for each of the four first bytes that narrow the range, and the rest.
  repeat' split
  all_goals
    rw [hrange]
    simp only [UInt8.reduceToNat]
    omega

/-! ### Continuation bytes -/

/-- It carries what it has above `0x80`. -/
theorem continuationBits_eq (b : UInt8) : continuationBits b = b.toNat - 0x80 := rfl

/-- The bits of continuation bytes, put behind those of the bytes before. -/
def payload (bits : Nat) (more : List UInt8) : Nat :=
  more.foldl (fun bits b => bits * 0x40 + continuationBits b) bits

/-- Without further bytes the payload is what the first one carries. -/
@[simp] theorem payload_nil (bits : Nat) : payload bits [] = bits := rfl

/-- Every further byte adds six bits at the end. -/
@[simp] theorem payload_cons (bits : Nat) (b : UInt8) (more : List UInt8) :
    payload bits (b :: more) = payload (bits * 0x40 + (b.toNat - 0x80)) more := by
  rw [payload, List.foldl_cons, continuationBits_eq, payload]

/-- Continuation bytes are read to the end of their character. -/
theorem readContinuation_append {more : List UInt8} (h : ∀ b ∈ more, isContinuation b = true)
    (read bits : Nat) (rest : List UInt8) :
    readContinuation more.length read bits (more ++ rest)
      = .char (Char.ofNat (payload bits more)) (read + more.length) := by
  induction more generalizing read bits with
  | nil => rfl
  | cons b more ih =>
      obtain ⟨hb, hmore⟩ := List.forall_mem_cons.mp h
      simp only [List.length_cons, List.cons_append, readContinuation, hb, if_true]
      rw [ih hmore, payload_cons, continuationBits_eq, Nat.add_assoc, Nat.add_comm 1]

/-- What is read to the end of a character are continuation bytes. -/
theorem exists_of_readContinuation {missing read bits width : Nat} {bytes : List UInt8} {c : Char}
    (h : readContinuation missing read bits bytes = .char c width) :
    ∃ more rest, bytes = more ++ rest ∧ more.length = missing ∧ width = read + missing
      ∧ (∀ b ∈ more, isContinuation b = true) ∧ c = Char.ofNat (payload bits more) := by
  induction missing generalizing read bits bytes with
  | zero =>
      cases h
      exact ⟨[], bytes, rfl, rfl, rfl, by simp, rfl⟩
  | succ missing ih =>
      cases bytes with
      | nil => exact absurd h (by simp [readContinuation])
      | cons b bytes =>
          simp only [readContinuation] at h
          split at h
          · rename_i hb
            obtain ⟨more, rest, rfl, rfl, hwidth, hmore, hc⟩ := ih h
            refine ⟨b :: more, rest, rfl, rfl, by omega, List.forall_mem_cons.mpr ⟨hb, hmore⟩, ?_⟩
            rw [hc, payload_cons, continuationBits_eq]
          · exact absurd h (by simp)

/-- The bits of the first of several bytes. -/
def leadBits (first : UInt8) (width : Nat) : Nat :=
  first.toNat % (if width = 2 then 0x20 else if width = 3 then 0x10 else 8)

/-- The first of two bytes carries five bits. -/
@[simp] theorem leadBits_two (first : UInt8) : leadBits first 2 = first.toNat % 0x20 := rfl

/-- The first of three bytes carries four bits. -/
@[simp] theorem leadBits_three (first : UInt8) : leadBits first 3 = first.toNat % 0x10 := rfl

/-- The first of four bytes carries three bits. -/
@[simp] theorem leadBits_four (first : UInt8) : leadBits first 4 = first.toNat % 8 := rfl

/-- A character of several bytes is read from its second byte on. -/
theorem utf8Head_cons {first second : UInt8} {more : List UInt8} {width : Nat}
    (hwidth : utf8Width first = some width) (hne : width ≠ 1) :
    utf8Head first (second :: more)
      = if ((secondByteRange first).1 ≤ second && second ≤ (secondByteRange first).2) = true then
          readContinuation (width - 2) 2 (payload (leadBits first width) [second]) more
        else .invalid 1 := by
  unfold utf8Head
  rw [hwidth]
  split
  · contradiction
  · rename_i h
    exact absurd (Option.some.inj h) hne
  · rename_i w _ h
    cases h
    rfl

/-- A first byte that announces others is incomplete without them. -/
theorem utf8Head_nil {first : UInt8} {width : Nat} (hwidth : utf8Width first = some width)
    (hne : width ≠ 1) : utf8Head first [] = .incomplete := by
  unfold utf8Head
  rw [hwidth]
  split
  · contradiction
  · rename_i h
    exact absurd (Option.some.inj h) hne
  · rfl

/-- A character of several bytes is read if they carry its bits. -/
theorem utf8Head_append {first second : UInt8} {more : List UInt8} {width : Nat} {c : Char}
    (hwidth : utf8Width first = some width) (hlength : width = more.length + 2)
    (hsecond : ((secondByteRange first).1 ≤ second && second ≤ (secondByteRange first).2) = true)
    (hmore : ∀ b ∈ more, isContinuation b = true)
    (hbits : payload (leadBits first width) (second :: more) = c.toNat) (rest : List UInt8) :
    utf8Head first (second :: more ++ rest) = .char c width := by
  have hall : payload (payload (leadBits first width) [second]) more = c.toNat := by
    rw [← hbits, payload_cons, payload_cons, payload_nil]
  have hmissing : width - 2 = more.length := by omega
  rw [List.cons_append, utf8Head_cons hwidth (by omega), if_pos hsecond, hmissing,
    readContinuation_append hmore, hall, Char.ofNat_toNat, hlength, Nat.add_comm 2]

/-! ### One character -/

/-- The bytes of a character, by its range. -/
theorem utf8EncodeChar_cases (c : Char) :
    (∃ a, String.utf8EncodeChar c = [a] ∧ c.toNat < 0x80 ∧ a.toNat = c.toNat)
    ∨ (∃ a b, String.utf8EncodeChar c = [a, b] ∧ 0x80 ≤ c.toNat ∧ c.toNat < 0x800
      ∧ a.toNat = 0xC0 + c.toNat / 0x40 ∧ b.toNat = 0x80 + c.toNat % 0x40)
    ∨ (∃ a b d, String.utf8EncodeChar c = [a, b, d] ∧ 0x800 ≤ c.toNat ∧ c.toNat < 0x10000
      ∧ a.toNat = 0xE0 + c.toNat / 0x1000 ∧ b.toNat = 0x80 + c.toNat / 0x40 % 0x40
      ∧ d.toNat = 0x80 + c.toNat % 0x40)
    ∨ ∃ a b d e, String.utf8EncodeChar c = [a, b, d, e] ∧ 0x10000 ≤ c.toNat
      ∧ a.toNat = 0xF0 + c.toNat / 0x40000 ∧ b.toNat = 0x80 + c.toNat / 0x1000 % 0x40
      ∧ d.toNat = 0x80 + c.toNat / 0x40 % 0x40 ∧ e.toNat = 0x80 + c.toNat % 0x40 := by
  have hvalid : c.toNat < 0xD800 ∨ 0xDFFF < c.toNat ∧ c.toNat < 0x110000 := c.valid
  have htoNat (n : Nat) : (UInt8.ofNat n).toNat = n % 256 := UInt8.toNat_ofNat'
  have hbytes : String.utf8EncodeChar c
      = if c.toNat ≤ 0x7F then [UInt8.ofNat c.toNat]
        else if c.toNat ≤ 0x7FF then
          [UInt8.ofNat (c.toNat / 64 % 0x20 + 0xC0), UInt8.ofNat (c.toNat % 0x40 + 0x80)]
        else if c.toNat ≤ 0xFFFF then
          [UInt8.ofNat (c.toNat / 4096 % 0x10 + 0xE0), UInt8.ofNat (c.toNat / 64 % 0x40 + 0x80),
            UInt8.ofNat (c.toNat % 0x40 + 0x80)]
        else
          [UInt8.ofNat (c.toNat / 262144 % 0x08 + 0xF0), UInt8.ofNat (c.toNat / 4096 % 0x40 + 0x80),
            UInt8.ofNat (c.toNat / 64 % 0x40 + 0x80), UInt8.ofNat (c.toNat % 0x40 + 0x80)] := rfl
  rw [hbytes]
  generalize c.toNat = v at hvalid
  by_cases h1 : v ≤ 0x7F
  · rw [if_pos h1]
    exact .inl ⟨_, rfl, by omega, by rw [htoNat]; omega⟩
  rw [if_neg h1]
  by_cases h2 : v ≤ 0x7FF
  · rw [if_pos h2]
    exact .inr (.inl ⟨_, _, rfl, by omega, by omega, by rw [htoNat]; omega, by rw [htoNat]; omega⟩)
  rw [if_neg h2]
  by_cases h3 : v ≤ 0xFFFF
  · rw [if_pos h3]
    exact .inr (.inr (.inl ⟨_, _, _, rfl, by omega, by omega, by rw [htoNat]; omega,
      by rw [htoNat]; omega, by rw [htoNat]; omega⟩))
  · rw [if_neg h3]
    exact .inr (.inr (.inr ⟨_, _, _, _, rfl, by omega, by rw [htoNat]; omega,
      by rw [htoNat]; omega, by rw [htoNat]; omega, by rw [htoNat]; omega⟩))

/-- A character is read from the bytes that it is written with, whatever follows them. -/
theorem utf8Head_utf8EncodeChar {c : Char} {first : UInt8} {more : List UInt8}
    (h : String.utf8EncodeChar c = first :: more) (rest : List UInt8) :
    utf8Head first (more ++ rest) = .char c (more.length + 1) := by
  have hvalid : c.toNat < 0xD800 ∨ 0xDFFF < c.toNat ∧ c.toNat < 0x110000 := c.valid
  rcases utf8EncodeChar_cases c with ⟨a, hc, hlt, ha⟩ | ⟨a, b, hc, hle, hlt, ha, hb⟩
    | ⟨a, b, d, hc, hle, hlt, ha, hb, hd⟩ | ⟨a, b, d, e, hc, hle, ha, hb, hd, he⟩ <;>
    obtain ⟨rfl, rfl⟩ := List.cons.inj (h.symm.trans hc)
  · have hwidth : utf8Width first = some 1 := utf8Width_eq_some_iff.mpr (by omega)
    simp only [utf8Head, hwidth, ha, Char.ofNat_toNat, List.length_nil]
  · have hwidth : utf8Width first = some 2 := utf8Width_eq_some_iff.mpr (by omega)
    have hsecond := (secondByte_iff first b).mpr
      ⟨isContinuation_iff.mpr (by omega), by omega, by omega, by omega, by omega⟩
    have hbits : payload (leadBits first 2) [b] = c.toNat := by
      simp only [leadBits_two, payload_cons, payload_nil]
      omega
    exact utf8Head_append hwidth rfl hsecond (by simp) hbits rest
  · have hwidth : utf8Width first = some 3 := utf8Width_eq_some_iff.mpr (by omega)
    have hsecond := (secondByte_iff first b).mpr
      ⟨isContinuation_iff.mpr (by omega), by omega, by omega, by omega, by omega⟩
    have hmore : ∀ x ∈ [d], isContinuation x = true :=
      List.forall_mem_singleton.mpr (isContinuation_iff.mpr (by omega))
    have hbits : payload (leadBits first 3) [b, d] = c.toNat := by
      simp only [leadBits_three, payload_cons, payload_nil]
      omega
    exact utf8Head_append hwidth rfl hsecond hmore hbits rest
  · have hwidth : utf8Width first = some 4 := utf8Width_eq_some_iff.mpr (by omega)
    have hsecond := (secondByte_iff first b).mpr
      ⟨isContinuation_iff.mpr (by omega), by omega, by omega, by omega, by omega⟩
    have hmore : ∀ x ∈ [d, e], isContinuation x = true :=
      List.forall_mem_cons.mpr ⟨isContinuation_iff.mpr (by omega),
        List.forall_mem_singleton.mpr (isContinuation_iff.mpr (by omega))⟩
    have hbits : payload (leadBits first 4) [b, d, e] = c.toNat := by
      simp only [leadBits_four, payload_cons, payload_nil]
      omega
    exact utf8Head_append hwidth rfl hsecond hmore hbits rest

/-- A number outside the surrogates is that of a character. -/
theorem toNat_ofNat {n : Nat} (hn : n < 0xD800 ∨ 0xDFFF < n ∧ n < 0x110000) :
    (Char.ofNat n).toNat = n := by
  have hvalid : n.isValidChar := hn
  rw [Char.ofNat, dif_pos hvalid]
  rfl

/-- The bits of a first and a second byte and of continuation bytes are those of a
character. -/
theorem payload_isCharacter {first second : UInt8} {more : List UInt8} {width : Nat}
    (hwidth : utf8Width first = some width) (hlength : width = more.length + 2)
    (hsecond : ((secondByteRange first).1 ≤ second && second ≤ (secondByteRange first).2) = true)
    (hmore : ∀ b ∈ more, isContinuation b = true) :
    payload (leadBits first width) (second :: more) < 0xD800
      ∨ 0xDFFF < payload (leadBits first width) (second :: more)
        ∧ payload (leadBits first width) (second :: more) < 0x110000 := by
  have hrange := (secondByte_iff first second).mp hsecond
  have hcontinuation := isContinuation_iff.mp hrange.1
  rcases utf8Width_eq_some_iff.mp hwidth with ⟨rfl, -⟩ | ⟨rfl, hlow, hhigh⟩
    | ⟨rfl, hlow, hhigh⟩ | ⟨rfl, hlow, hhigh⟩
  · omega
  · obtain rfl : more = [] := List.length_eq_zero_iff.mp (by omega)
    simp only [leadBits_two, payload_cons, payload_nil]
    omega
  · obtain ⟨third, rfl⟩ : ∃ third, more = [third] := List.length_eq_one_iff.mp (by omega)
    have hthird := isContinuation_iff.mp (hmore third (by simp))
    simp only [leadBits_three, payload_cons, payload_nil]
    omega
  · obtain ⟨third, last, rfl⟩ : ∃ third last, more = [third, last] :=
      List.length_eq_two.mp (by omega)
    have hthird := isContinuation_iff.mp (hmore third (by simp))
    have hlast := isContinuation_iff.mp (hmore last (by simp))
    simp only [leadBits_four, payload_cons, payload_nil]
    omega

/-- A character is written with the bytes that carry its bits. -/
theorem utf8EncodeChar_of_payload {first second : UInt8} {more : List UInt8} {width : Nat}
    {c : Char} (hwidth : utf8Width first = some width) (hlength : width = more.length + 2)
    (hsecond : ((secondByteRange first).1 ≤ second && second ≤ (secondByteRange first).2) = true)
    (hmore : ∀ b ∈ more, isContinuation b = true)
    (hbits : c.toNat = payload (leadBits first width) (second :: more)) :
    String.utf8EncodeChar c = first :: second :: more := by
  have hrange := (secondByte_iff first second).mp hsecond
  have hcontinuation := isContinuation_iff.mp hrange.1
  have hbyte {a b : UInt8} (h : a.toNat = b.toNat) : a = b := UInt8.toNat_inj.mp h
  have hcases := utf8EncodeChar_cases c
  -- Of the four ranges of characters the value fits one, and there the bytes are the same.
  rcases utf8Width_eq_some_iff.mp hwidth with ⟨rfl, -⟩ | ⟨rfl, hlow, hhigh⟩
    | ⟨rfl, hlow, hhigh⟩ | ⟨rfl, hlow, hhigh⟩
  · omega
  · obtain rfl : more = [] := List.length_eq_zero_iff.mp (by omega)
    simp only [leadBits_two, payload_cons, payload_nil] at hbits
    rcases hcases with ⟨a, hc, hlt, ha⟩ | ⟨a, b, hc, hle, hlt, ha, hb⟩ | ⟨a, b, d, hc, hle, -⟩
      | ⟨a, b, d, e, hc, hle, -⟩
    · omega
    · obtain rfl : a = first := hbyte (by omega)
      obtain rfl : b = second := hbyte (by omega)
      exact hc
    · omega
    · omega
  · obtain ⟨third, rfl⟩ : ∃ third, more = [third] := List.length_eq_one_iff.mp (by omega)
    have hthird := isContinuation_iff.mp (hmore third (by simp))
    simp only [leadBits_three, payload_cons, payload_nil] at hbits
    rcases hcases with ⟨a, hc, hlt, ha⟩ | ⟨a, b, hc, hle, hlt, ha, hb⟩
      | ⟨a, b, d, hc, hle, hlt, ha, hb, hd⟩ | ⟨a, b, d, e, hc, hle, -⟩
    · omega
    · omega
    · obtain rfl : a = first := hbyte (by omega)
      obtain rfl : b = second := hbyte (by omega)
      obtain rfl : d = third := hbyte (by omega)
      exact hc
    · omega
  · obtain ⟨third, last, rfl⟩ : ∃ third last, more = [third, last] :=
      List.length_eq_two.mp (by omega)
    have hthird := isContinuation_iff.mp (hmore third (by simp))
    have hlast := isContinuation_iff.mp (hmore last (by simp))
    simp only [leadBits_four, payload_cons, payload_nil] at hbits
    rcases hcases with ⟨a, hc, hlt, ha⟩ | ⟨a, b, hc, hle, hlt, ha, hb⟩
      | ⟨a, b, d, hc, hle, hlt, ha, hb, hd⟩ | ⟨a, b, d, e, hc, hle, ha, hb, hd, he⟩
    · omega
    · omega
    · omega
    · obtain rfl : a = first := hbyte (by omega)
      obtain rfl : b = second := hbyte (by omega)
      obtain rfl : d = third := hbyte (by omega)
      obtain rfl : e = last := hbyte (by omega)
      exact hc

/-- What is read as a character are the bytes that it is written with. -/
theorem utf8EncodeChar_of_utf8Head {c : Char} {first : UInt8} {bytes : List UInt8} {width : Nat}
    (h : utf8Head first bytes = .char c width) :
    ∃ more rest, bytes = more ++ rest ∧ width = more.length + 1
      ∧ String.utf8EncodeChar c = first :: more := by
  cases hwidth : utf8Width first with
  | none => exact absurd h (by simp [utf8Head, hwidth])
  | some n =>
      by_cases hone : n = 1
      · subst hone
        simp only [utf8Head, hwidth, Utf8Head.char.injEq] at h
        obtain ⟨rfl, rfl⟩ := h
        refine ⟨[], bytes, rfl, rfl, ?_⟩
        have hfirst := utf8Width_eq_some_iff.mp hwidth
        have hv := toNat_ofNat (n := first.toNat) (by omega)
        rcases utf8EncodeChar_cases (Char.ofNat first.toNat) with ⟨a, hc, hlt, ha⟩
          | ⟨a, b, hc, hle, -⟩ | ⟨a, b, d, hc, hle, -⟩ | ⟨a, b, d, e, hc, hle, -⟩
        · rw [hc, UInt8.toNat_inj.mp (ha.trans hv)]
        all_goals omega
      · cases bytes with
        | nil => exact absurd (utf8Head_nil hwidth hone ▸ h) (by simp)
        | cons second bytes =>
            rw [utf8Head_cons hwidth hone] at h
            split at h
            · rename_i hsecond
              obtain ⟨more, rest, rfl, hlength, rfl, hmore, rfl⟩ := exists_of_readContinuation h
              have htwo : n = more.length + 2 := by
                have := utf8Width_eq_some_iff.mp hwidth
                omega
              refine ⟨second :: more, rest, rfl, by simp only [List.length_cons]; omega, ?_⟩
              -- The bits are those of a character, so none is lost when it is made from them.
              have hcharacter := payload_isCharacter hwidth htwo hsecond hmore
              refine utf8EncodeChar_of_payload hwidth htwo hsecond hmore ?_
              rw [payload_cons] at hcharacter ⊢
              rw [payload_cons, payload_nil]
              exact toNat_ofNat hcharacter
            · exact absurd h (by simp)

/-! ### Texts -/

/-- A text is encoded character by character. -/
theorem encode_eq (s : String) : encode s = s.toList.flatMap String.utf8EncodeChar := by
  have hs : s.toByteArray = s.toList.utf8Encode := by
    rw [← String.toByteArray_ofList, String.ofList_toList]
  rw [encode, String.toUTF8_eq_toByteArray, hs, List.utf8Encode, List.data_toByteArray]

/-- The bytes of characters are read as these characters. -/
theorem decodeFrom_flatMap (index : Nat) (cs : List Char) :
    decodeFrom index (cs.flatMap String.utf8EncodeChar) = .ok cs := by
  induction cs generalizing index with
  | nil => rw [List.flatMap_nil, decodeFrom]
  | cons c cs ih =>
      obtain ⟨first, more, hc⟩ : ∃ first more, String.utf8EncodeChar c = first :: more := by
        rcases utf8EncodeChar_cases c with ⟨a, hc, -⟩ | ⟨a, b, hc, -⟩ | ⟨a, b, d, hc, -⟩
          | ⟨a, b, d, e, hc, -⟩ <;> exact ⟨_, _, hc⟩
      rw [List.flatMap_cons, hc, List.cons_append, decodeFrom, utf8Head_utf8EncodeChar hc]
      simp only [Nat.add_sub_cancel, List.drop_left, ih]
      rfl

/-- Bytes that are read as characters are the bytes of these. -/
theorem eq_flatMap_of_decodeFrom {index : Nat} {bytes : List UInt8} {cs : List Char}
    (h : decodeFrom index bytes = .ok cs) : bytes = cs.flatMap String.utf8EncodeChar := by
  induction index, bytes using decodeFrom.induct generalizing cs with
  | case1 index =>
      rw [decodeFrom] at h
      cases h
      rfl
  | case2 index first bytes c width hhead ih =>
      rw [decodeFrom, hhead] at h
      cases hrest : decodeFrom (index + width) (bytes.drop (width - 1)) with
      | error e =>
          simp only [hrest] at h
          exact absurd h (by simp [bind, Except.bind])
      | ok later =>
          simp only [hrest] at h
          cases h
          obtain ⟨more, rest, rfl, rfl, hc⟩ := utf8EncodeChar_of_utf8Head hhead
          rw [Nat.add_sub_cancel, List.drop_left] at ih hrest
          rw [List.flatMap_cons, hc, ← ih hrest]
          rfl
  | case3 index first bytes length hhead =>
      rw [decodeFrom, hhead] at h
      exact absurd h (by simp)
  | case4 index first bytes hhead =>
      rw [decodeFrom, hhead] at h
      exact absurd h (by simp)

/-- Bytes are read as a text exactly if they are the bytes of that text. -/
theorem decode_eq_ok_iff {bytes : List UInt8} {s : String} :
    decode bytes = .ok s ↔ bytes = encode s := by
  rw [encode_eq, decode]
  constructor
  · intro h
    cases hcs : decodeFrom 0 bytes with
    | error e => exact absurd (hcs ▸ h) (by simp [Except.map])
    | ok cs =>
        rw [hcs] at h
        cases h
        rw [String.toList_ofList]
        exact eq_flatMap_of_decodeFrom hcs
  · rintro rfl
    rw [decodeFrom_flatMap]
    exact congrArg Except.ok String.ofList_toList

end BindingCompiler.Text
