import BindingCompiler.Proofs.TypeName.Package

/-!
# `BindingCompiler.Proofs.TypeName.Canonical`: reading a name that was read

A type name can be written with blanks around it and before its brackets. What is read of it has
none, so it is read again as it is.

* `isRead_iff_parse_text`: a name was read from some text exactly when it is read from its own.
* `isRead_iff_elementFault?`: a name without brackets was read exactly when it is an element
  without a fault.
* `IsRead.nested`: a class inside a class that was read has a name that is read, if the name it
  has there is made of characters of names. There are no classes inside arrays
  (`isRead_bindingType_iff`).
-/

set_option autoImplicit false

namespace BindingCompiler

open Text

/-! ### Texts without blanks -/

/-- A text without blanks loses nothing at its ends. -/
theorem trim_of_forall {cs : List Char} (h : ∀ c ∈ cs, isBlank c = false) : trim cs = cs := by
  have hstart : trimStart cs = cs :=
    dropWhile_of_head fun c hc => h c (List.mem_of_mem_head? hc)
  have hend : cs.reverse.dropWhile isBlank = cs.reverse :=
    dropWhile_of_head fun c hc => h c (List.mem_reverse.mp (List.mem_of_mem_head? hc))
  rw [trim, hstart, trimEnd, hend, List.reverse_reverse]

/-- A part of a text that goes on without separators is a part of the text, or the end of one
with what follows. -/
theorem segments_append_of_not_mem {separator : Char} {tail : List Char} (h : separator ∉ tail)
    (cs : List Char) {part : List Char} (hpart : part ∈ segments separator (cs ++ tail)) :
    part ∈ segments separator cs ∨ ∃ last ∈ segments separator cs, part = last ++ tail := by
  cases hcut : splitLast? separator cs with
  | none =>
      have hno := (splitLast?_eq_none_iff _ _).mp hcut
      have hall : separator ∉ cs ++ tail := fun hmem => (List.mem_append.mp hmem).elim hno h
      rw [segments_of_not_mem hall, List.mem_singleton] at hpart
      rw [segments_of_not_mem hno]
      exact .inr ⟨cs, List.mem_singleton_self _, hpart⟩
  | some cut =>
      obtain ⟨before, after⟩ := cut
      obtain ⟨rfl, hno⟩ := (splitLast?_eq_some_iff _ _ _ _).mp hcut
      have hall : separator ∉ after ++ tail := fun hmem => (List.mem_append.mp hmem).elim hno h
      rw [List.append_assoc, List.cons_append, segments_append_cons, segments_of_not_mem hall,
        List.mem_append, List.mem_singleton] at hpart
      rw [segments_append_cons, segments_of_not_mem hno]
      rcases hpart with hpart | rfl
      · exact .inl (List.mem_append_left _ hpart)
      · exact .inr ⟨after, List.mem_append_right _ (List.mem_singleton_self _), rfl⟩

namespace TypeName

variable {t : TypeName} {element : List Char} {dimensions : Nat}

/-! ### Elements -/

/-- An element without a fault is not empty. -/
theorem ne_nil_of_elementFault? (h : elementFault? element dimensions = none) : element ≠ [] := by
  rintro rfl
  exact absurd h (by simp [elementFault?])

/-- Characters of names are not blank. -/
theorem not_isBlank_of_isSegmentChar {c : Char} (h : isSegmentChar c = true) :
    isBlank c = false := by
  simp only [isSegmentChar, Bool.or_eq_true, beq_iff_eq, or_assoc] at h
  rcases h with h | rfl | rfl
  · exact not_isBlank_of_isAlphanumeric h
  · decide
  · decide

/-- Digits are characters of names. -/
theorem isSegmentChar_of_isDigit {c : Char} (h : c.isDigit = true) : isSegmentChar c = true := by
  have hrange : 48 ≤ c.toNat ∧ c.toNat ≤ 57 := by
    simpa [Char.isDigit, UInt32.le_iff_toNat_le] using h
  have hcode : isAlphanumericCode c.toNat = true := by
    rw [isAlphanumericCode, if_pos (by omega)]
    simp [isAsciiAlphanumeric, hrange]
  rw [isSegmentChar, isAlphanumeric, hcode]
  rfl

/-- An element without a fault has neither blanks nor brackets. -/
theorem plain_of_elementFault? (h : elementFault? element dimensions = none) {c : Char}
    (hc : c ∈ element) : isBlank c = false ∧ c ≠ ']' := by
  rcases char_of_elementFault? h hc with hchar | rfl
  · refine ⟨not_isBlank_of_isSegmentChar hchar, ?_⟩
    rintro rfl
    exact absurd hchar (by decide)
  · decide

/-! ### Reading again -/

/-- Brackets without blanks between them are taken off one by one. -/
theorem peel_brackets {rev : List Char} (h : ∀ c ∈ rev, isBlank c = false ∧ c ≠ ']')
    (dimensions : Nat) :
    peel ((List.replicate dimensions [']', '[']).flatten ++ rev) = (rev, dimensions) := by
  induction dimensions with
  | zero =>
      show peel rev = (rev, 0)
      rw [peel]
      -- What is left does not begin with a bracket.
      rintro rest rfl
      exact (h ']' List.mem_cons_self).2 rfl
  | succ n ih =>
      have hbrackets : ∀ c ∈ [']', '['], isBlank c = false :=
        List.forall_mem_cons.mpr ⟨by decide, List.forall_mem_singleton.mpr (by decide)⟩
      have hhead : ∀ c, ((List.replicate n [']', '[']).flatten ++ rev).head? = some c →
          isBlank c = false := by
        intro c hc
        rcases List.mem_append.mp (List.mem_of_mem_head? hc) with hc | hc
        · obtain ⟨pair, hpair, hc⟩ := List.mem_flatten.mp hc
          rw [List.eq_of_mem_replicate hpair] at hc
          exact hbrackets c hc
        · exact (h c hc).1
      rw [List.replicate_succ, List.flatten_cons]
      show peel (']' :: '[' :: ((List.replicate n [']', '[']).flatten ++ rev)) = _
      rw [peel, dropWhile_of_head hhead, ih]

/-- The brackets of an array, last character first. -/
theorem reverse_brackets (dimensions : Nat) :
    (List.replicate dimensions ['[', ']']).flatten.reverse
      = (List.replicate dimensions [']', '[']).flatten := by
  simp [List.reverse_flatten]

/-- An element without a fault and brackets are read as what they are. -/
theorem parse_ofElement (h : elementFault? element dimensions = none) :
    parse (ofElement element dimensions).text = .ok (ofElement element dimensions) := by
  have hplain : ∀ c ∈ (ofElement element dimensions).text.toList, isBlank c = false := by
    intro c hc
    rw [toList_ofElement, List.mem_append] at hc
    rcases hc with hc | hc
    · exact (plain_of_elementFault? h hc).1
    · cases hblank : isBlank c with
      | false => rfl
      | true =>
          refine absurd hc (not_mem_brackets ?_ ?_ dimensions) <;>
            · rintro rfl
              exact absurd hblank (by decide)
  have hne : (ofElement element dimensions).text.toList ≠ [] := by
    rw [toList_ofElement]
    exact List.append_ne_nil_of_left_ne_nil (ne_nil_of_elementFault? h) _
  have hpeel : peel (ofElement element dimensions).text.toList.reverse
      = (element.reverse, dimensions) := by
    rw [toList_ofElement, List.reverse_append, reverse_brackets]
    exact peel_brackets (fun c hc => plain_of_elementFault? h (List.mem_reverse.mp hc)) _
  unfold parse
  dsimp only
  rw [trim_of_forall hplain, if_neg (by simpa using hne), hpeel]
  simp only [List.reverse_reverse, h]

/-- A type name was read from some text exactly when it is read from its own. -/
theorem isRead_iff_parse_text : t.IsRead ↔ parse t.text = .ok t := by
  constructor
  · intro h
    obtain ⟨element, dimensions, hfault, rfl⟩ := exists_of_isRead h
    exact parse_ofElement hfault
  · exact fun h => ⟨t.text, h⟩

/-! ### Names without brackets -/

/-- The component of an array has one pair of brackets less. -/
theorem component?_ofElement_succ (element : List Char) (n : Nat) :
    (ofElement element (n + 1)).component? = some (ofElement element n) := by
  rw [component?_eq_some_iff, ← String.toList_inj, String.toList_append, toList_ofElement,
    toList_ofElement, List.replicate_succ', List.flatten_append]
  simp

/-- Brackets behind an element make an array. -/
theorem isArray_ofElement_succ (element : List Char) (n : Nat) :
    (ofElement element (n + 1)).isArray = true := by
  rw [isArray, component?_ofElement_succ]
  rfl

/-- A name that is no array was read exactly when it is an element without a fault. -/
theorem isRead_iff_elementFault? (harray : t.isArray = false) :
    t.IsRead ↔ elementFault? t.text.toList 0 = none := by
  constructor
  · intro h
    obtain ⟨element, dimensions, hfault, rfl⟩ := exists_of_isRead h
    cases dimensions with
    | zero =>
        have htext : (ofElement element 0).text.toList = element := by
          rw [toList_ofElement]
          exact List.append_nil _
        rwa [htext]
    | succ n => exact absurd (isArray_ofElement_succ element n) (by simp [harray])
  · intro h
    have hself : ofElement t.text.toList 0 = t :=
      eq_of_text (by rw [← String.toList_inj, toList_ofElement]; exact List.append_nil _)
    exact ⟨_, hself ▸ parse_ofElement h⟩

/-- A name that was read and is no array has no brackets. -/
theorem bracket_not_mem (h : t.IsRead) (harray : t.isArray = false) : ']' ∉ t.text.toList :=
  fun hmem => (plain_of_elementFault? ((isRead_iff_elementFault? harray).mp h) hmem).2 rfl

/-! ### Names inside classes -/

/-- Inside a class that was read, a name of characters of names is read. -/
theorem IsRead.nested (h : t.IsRead) (harray : t.isArray = false) {suffix : String}
    (hsuffix : ∀ c ∈ suffix.toList, isSegmentChar c = true) : (t.nested suffix).IsRead := by
  have hfault := (isRead_iff_elementFault? harray).mp h
  have hno : ∀ c : Char, isSegmentChar c = false → c ∉ suffix.toList :=
    fun c hc hmem => by simp [hsuffix c hmem] at hc
  have htail : ∀ c ∈ '$' :: suffix.toList, isSegmentChar c = true :=
    List.forall_mem_cons.mpr ⟨by decide, hsuffix⟩
  rw [isRead_iff_elementFault? (not_isArray_nested (hno ']' (by decide)) t)]
  have hprimitive : ¬primitiveTexts.contains (t.nested suffix).text = true :=
    Bool.eq_false_iff.mp (not_isPrimitive_nested t suffix)
  unfold elementFault?
  rw [if_neg (by simp [toList_nested]), String.ofList_toList, if_neg hprimitive,
    List.findSome?_eq_none_iff, toList_nested]
  intro part hpart
  have hdot : '.' ∉ '$' :: suffix.toList := by
    intro hmem
    exact absurd (htail _ hmem) (by decide)
  -- The last segment of the class goes on, and the others stay.
  rcases segments_append_of_not_mem hdot _ hpart with hpart | ⟨last, hlast, rfl⟩
  · exact segmentFault?_of_elementFault? hfault part hpart
  · obtain ⟨first, rest, rfl, hdigit, hall⟩ :=
      segmentFault?_eq_none_iff.mp (segmentFault?_of_elementFault? hfault last hlast)
    refine segmentFault?_eq_none_iff.mpr ⟨first, rest ++ '$' :: suffix.toList, rfl, hdigit, ?_⟩
    exact List.forall_mem_append.mpr ⟨hall, htail⟩

/-- The binding class of a target that was read has a name that is read, unless the target is an
array. -/
theorem isRead_bindingType_iff (h : t.IsRead) :
    (bindingType t).IsRead ↔ t.isArray = false := by
  constructor
  · intro hbinding
    have hno := bracket_not_mem hbinding (bindingType_isClass t).2
    rw [Bool.eq_false_iff]
    intro harray
    obtain ⟨c, hc⟩ := Option.isSome_iff_exists.mp harray
    refine hno ?_
    rw [bindingType, toList_nested, component?_eq_some_iff.mp hc, String.toList_append]
    exact List.mem_append_left _ (List.mem_append_right _ (by decide))
  · intro harray
    exact h.nested harray (List.all_eq_true.mp (by decide))

end TypeName

end BindingCompiler
