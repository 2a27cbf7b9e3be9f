import BindingCompiler.Proofs.TypeName.Canonical

/-!
# `BindingCompiler.Proofs.TypeName.Grammar`: the texts that are type names

A type name is written as an element and pairs of brackets, with blanks before each pair and
around the whole. `IsElement` and `Spells` are this grammar. The reader takes the brackets off
from the end, and looks at what is left.

* `spells_peel`, `Spells.peel_reverse`: taking brackets off undoes the grammar, for elements without
  blanks and closing brackets.
* `elementFault?_eq_none_iff`: what is left has no fault exactly if it is an element.
* `parse_by_grammar`: a text is read exactly if it is spelled so, and as the element with the
  brackets. What it is read as is read again as itself.
-/

set_option autoImplicit false

namespace BindingCompiler

open Text

namespace TypeName

/-! ### The grammar -/

/-- Letters, digits, underscores and dollars, at least one of them and no ASCII digit in front. -/
structure IsSegment (cs : List Char) : Prop where
  ne_nil : cs ≠ []
  chars : ∀ c ∈ cs, isAlphanumeric c = true ∨ c = '_' ∨ c = '$'
  head : ∀ c, cs.head? = some c → ¬ ('0' ≤ c ∧ c ≤ '9')

/-- A primitive type or segments with dots between them, at least one. There are no arrays of
`void`. -/
structure IsElement (cs : List Char) (dimensions : Nat) : Prop where
  form : (∃ name ∈ primitiveTexts, cs = name.toList)
    ∨ ∃ parts, parts ≠ [] ∧ (∀ part ∈ parts, IsSegment part) ∧ cs = joinWith '.' parts
  void_single : cs = "void".toList → dimensions = 0

/-- The text is the element and so many pairs of brackets, each after some blanks or none. -/
inductive Spells (element : List Char) : Nat → List Char → Prop
  | bare : Spells element 0 element
  | bracketed {dimensions : Nat} {text blanks : List Char} (h : Spells element dimensions text)
      (hblanks : ∀ c ∈ blanks, isBlank c = true) :
      Spells element (dimensions + 1) (text ++ blanks ++ ['[', ']'])

variable {element text : List Char} {dimensions : Nat}

/-! ### Elements -/

/-- A character is no digit of this kind if it is not between the first and the last of them. -/
theorem isAsciiDigit_eq_false_iff {c : Char} : isAsciiDigit c = false ↔ ¬ ('0' ≤ c ∧ c ≤ '9') := by
  rw [← Bool.not_eq_true, isAsciiDigit, Bool.and_eq_true, decide_eq_true_eq, decide_eq_true_eq]

/-- The characters of a segment are letters, digits, underscores and dollars. -/
theorem isSegmentChar_iff {c : Char} :
    isSegmentChar c = true ↔ isAlphanumeric c = true ∨ c = '_' ∨ c = '$' := by
  simp only [isSegmentChar, Bool.or_eq_true, beq_iff_eq, or_assoc]

/-- Nothing is wrong with a text as a segment exactly if it is one. -/
theorem segmentFault?_eq_none_iff_isSegment : segmentFault? text = none ↔ IsSegment text := by
  rw [segmentFault?_eq_none_iff]
  constructor
  · rintro ⟨first, rest, rfl, hdigit, hall⟩
    refine ⟨List.cons_ne_nil first rest, fun c hc => isSegmentChar_iff.mp (hall c hc), ?_⟩
    intro c hc
    cases hc
    exact isAsciiDigit_eq_false_iff.mp hdigit
  · intro h
    obtain ⟨first, rest, rfl⟩ := List.exists_cons_of_ne_nil h.ne_nil
    exact ⟨first, rest, rfl, isAsciiDigit_eq_false_iff.mpr (h.head first rfl),
      fun c hc => isSegmentChar_iff.mpr (h.chars c hc)⟩

/-- A segment has no dots. -/
theorem IsSegment.dot_not_mem (h : IsSegment text) : '.' ∉ text := by
  intro hdot
  exact absurd (isSegmentChar_iff.mpr (h.chars '.' hdot)) (by decide)

/-- The segments of an element are segments, of a primitive type too. -/
theorem IsElement.isSegment (h : IsElement element dimensions) :
    ∀ part ∈ segments '.' element, IsSegment part := by
  intro part hpart
  rcases h.form with ⟨name, hname, rfl⟩ | ⟨parts, hne, hparts, rfl⟩
  · exact segmentFault?_eq_none_iff_isSegment.mp (segmentFault?_of_primitive hname part hpart)
  · rw [segments_joinWith hne fun part hpart => (hparts part hpart).dot_not_mem] at hpart
    exact hparts part hpart

/-- No element is empty. -/
theorem IsElement.ne_nil (h : IsElement element dimensions) : element ≠ [] := by
  rintro rfl
  exact (h.isSegment [] (List.mem_singleton_self _)).ne_nil rfl

/-- Nothing is wrong with a text as an element exactly if it is one. -/
theorem elementFault?_eq_none_iff :
    elementFault? element dimensions = none ↔ IsElement element dimensions := by
  constructor
  · intro h
    refine ⟨.inr ⟨segments '.' element, segments_ne_nil _ _, ?_, (joinWith_segments _ _).symm⟩, ?_⟩
    · intro part hpart
      exact segmentFault?_eq_none_iff_isSegment.mp (segmentFault?_of_elementFault? h part hpart)
    · rintro rfl
      by_contra hdimensions
      -- The primitive type is looked up before the segments.
      have hfault : elementFault? "void".toList dimensions = some .arrayOfVoid := by
        have hvoid : primitiveTexts.contains (String.ofList "void".toList) = true := by decide
        rw [elementFault?, if_neg (by decide), if_pos hvoid,
          if_pos ⟨by decide, Nat.pos_of_ne_zero hdimensions⟩]
      rw [hfault] at h
      exact absurd h (by simp)
  · intro h
    have hvoid : ¬ (String.ofList element = "void" ∧ 0 < dimensions) := by
      rintro ⟨htext, hdimensions⟩
      have hzero := h.void_single (by rw [← htext, String.toList_ofList])
      omega
    have hsegments : (segments '.' element).findSome? segmentFault? = none :=
      List.findSome?_eq_none_iff.mpr fun part hpart =>
        segmentFault?_eq_none_iff_isSegment.mpr (h.isSegment part hpart)
    rw [elementFault?, if_neg (by simpa using h.ne_nil), if_neg hvoid, hsegments, ite_self]

/-- An element has no blanks and no closing brackets. -/
theorem IsElement.plain (h : IsElement element dimensions) :
    ∀ c ∈ element, isBlank c = false ∧ c ≠ ']' :=
  fun _ => plain_of_elementFault? (elementFault?_eq_none_iff.mpr h)

/-! ### Brackets -/

/-- What is left when brackets are taken off, and their number, spell the text. -/
theorem spells_peel (rev : List Char) : Spells (peel rev).1.reverse (peel rev).2 rev.reverse := by
  induction rev using peel.induct with
  | case1 rest left dimensions hleft ih =>
      -- The blanks before the last pair are those that are dropped.
      have hblanks : ∀ c ∈ (rest.takeWhile isBlank).reverse, isBlank c = true :=
        fun c hc => List.all_eq_true.mp List.all_takeWhile c (List.mem_reverse.mp hc)
      have htext : (']' :: '[' :: rest).reverse
          = (rest.dropWhile isBlank).reverse ++ (rest.takeWhile isBlank).reverse ++ ['[', ']'] := by
        rw [← List.reverse_append, List.takeWhile_append_dropWhile]
        simp
      rw [hleft] at ih
      rw [htext, peel, hleft]
      exact .bracketed ih hblanks
  | case2 cs hno =>
      rw [peel]
      · exact .bare
      · exact hno

/-- A spelled text does not end in a blank if the element does not. -/
theorem Spells.not_isBlank_last (h : Spells element dimensions text)
    (helement : ∀ c ∈ element, isBlank c = false) :
    ∀ c, text.reverse.head? = some c → isBlank c = false := by
  intro c hc
  cases h with
  | bare => exact helement c (List.mem_reverse.mp (List.mem_of_mem_head? hc))
  | bracketed h hblanks =>
      rw [List.reverse_append] at hc
      cases hc
      decide

/-- From a spelled text, brackets are taken off until the element is left. -/
theorem Spells.peel_reverse (h : Spells element dimensions text)
    (helement : ∀ c ∈ element, isBlank c = false ∧ c ≠ ']') :
    peel text.reverse = (element.reverse, dimensions) := by
  -- Behind the blanks of the last pair, what is left ends in no blank, so no more is dropped.
  induction h with
  | bare =>
      rw [peel]
      rintro rest hrest
      have hbracket : ']' ∈ element.reverse := hrest ▸ List.mem_cons_self
      exact (helement ']' (List.mem_reverse.mp hbracket)).2 rfl
  | @bracketed dimensions text blanks h hblanks ih =>
      have hlast := h.not_isBlank_last fun c hc => (helement c hc).1
      have hdrop : (blanks.reverse ++ text.reverse).dropWhile isBlank = text.reverse := by
        rw [List.dropWhile_append_of_pos fun c hc => hblanks c (List.mem_reverse.mp hc),
          dropWhile_of_head hlast]
      have htext : (text ++ blanks ++ ['[', ']']).reverse
          = ']' :: '[' :: (blanks.reverse ++ text.reverse) := by
        simp
      rw [htext, peel, hdrop, ih]

/-! ### Type names -/

/-- Only a text without anything but blanks is empty. -/
theorem parse_eq_empty_iff {s : String} : parse s = .error .empty ↔ trim s.toList = [] := by
  constructor
  · intro h
    by_contra hne
    unfold parse at h
    dsimp only at h
    rw [if_neg (by simpa using hne)] at h
    split at h <;> exact absurd h (by simp)
  · intro h
    unfold parse
    dsimp only
    rw [h]
    rfl

/-- A text is read as an element and brackets exactly if it is, without the blanks around it,
spelled by them. -/
theorem parse_eq_ok_iff {s : String} {t : TypeName} :
    parse s = .ok t ↔ ∃ element dimensions, IsElement element dimensions
      ∧ Spells element dimensions (trim s.toList) ∧ t = ofElement element dimensions := by
  constructor
  · intro h
    have hspells := spells_peel (trim s.toList).reverse
    rw [List.reverse_reverse] at hspells
    unfold parse at h
    dsimp only at h
    split at h
    · exact absurd h (by simp)
    · split at h
      · exact absurd h (by simp)
      · rename_i hfault
        cases h
        exact ⟨_, _, elementFault?_eq_none_iff.mp hfault, hspells, rfl⟩
  · rintro ⟨element, dimensions, helement, hspells, rfl⟩
    have hne : trim s.toList ≠ [] := by
      intro hnil
      rw [hnil] at hspells
      -- Nothing spells the empty text but an element that is empty itself.
      generalize htext : ([] : List Char) = text at hspells
      cases hspells with
      | bare => exact helement.ne_nil htext.symm
      | bracketed => exact absurd htext.symm (by simp)
    have hpeel := hspells.peel_reverse helement.plain
    have hfault := elementFault?_eq_none_iff.mpr helement
    unfold parse
    dsimp only
    rw [if_neg (by simpa using hne), hpeel]
    simp only [List.reverse_reverse, hfault]

/-- A text without anything but blanks is refused as empty. Every other text is read exactly if it
is, without the blanks around it, an element and pairs of brackets with blanks before them. It is
read as the element and the brackets, and these are read again as what they are. -/
theorem parse_by_grammar (s : String) :
    (parse s = .error .empty ↔ trim s.toList = [])
      ∧ (∀ t, parse s = .ok t
        ↔ ∃ element dimensions, IsElement element dimensions
          ∧ Spells element dimensions (trim s.toList)
          ∧ t = ⟨String.ofList (element ++ (List.replicate dimensions ['[', ']']).flatten)⟩)
      ∧ ∀ t, parse s = .ok t → parse t.text = .ok t :=
  ⟨parse_eq_empty_iff, fun _ => parse_eq_ok_iff, fun _ h => isRead_iff_parse_text.mp ⟨s, h⟩⟩

/-- Blanks around the name and before its brackets are dropped. -/
theorem parse_by_grammar_grid :
    parse " java.lang.String []\t[] " = .ok ⟨"java.lang.String[][]"⟩
      ∧ parse "java.lang.String[][]" = .ok ⟨"java.lang.String[][]"⟩
      ∧ parse " \t" = .error .empty := by
  obtain ⟨-, hread, hagain⟩ := parse_by_grammar " java.lang.String []\t[] "
  obtain ⟨hempty, -, -⟩ := parse_by_grammar " \t"
  have helement : IsElement "java.lang.String".toList 2 :=
    elementFault?_eq_none_iff.mp (by decide)
  have hspace : ∀ c ∈ [' '], isBlank c = true := List.forall_mem_singleton.mpr (by decide)
  have htab : ∀ c ∈ ['\t'], isBlank c = true := List.forall_mem_singleton.mpr (by decide)
  have hname : Spells "java.lang.String".toList 0 "java.lang.String".toList := .bare
  have hspells := (hname.bracketed hspace).bracketed htab
  have htrim : trim " java.lang.String []\t[] ".toList
      = "java.lang.String".toList ++ [' '] ++ ['[', ']'] ++ ['\t'] ++ ['[', ']'] := by
    decide
  have hparse := (hread ⟨"java.lang.String[][]"⟩).mpr
    ⟨_, _, helement, htrim ▸ hspells, by decide⟩
  exact ⟨hparse, hagain _ hparse, hempty.mpr (by decide)⟩

end TypeName

end BindingCompiler
