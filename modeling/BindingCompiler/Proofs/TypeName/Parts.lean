import BindingCompiler.Proofs.TypeName.Grammar

/-!
# `BindingCompiler.Proofs.TypeName.Parts`: taking type names apart

The text of a type name is all that there is of a type, so what a type is made of is cut out of it:
the component and the element of an array by the brackets at its end, the package and the local
name of a class at its last dot. Each cut is a function of its own on the text.

They fit together on any text. The component can be taken as many times as there are pairs of
brackets at the end (`dimensions`), and then the element is left (`text_eq_element_append`). A class
is its package and its local name with the last dot between them (`text_eq_of_package?`). On names
that were read, the parts are names that are read as well: `IsRead.component`, `IsRead.element`.

`decomposes_of_parse` says all of it for the names that are read.
-/

set_option autoImplicit false

namespace BindingCompiler

namespace TypeName

open Text

variable {t c : TypeName}

/-! ### Brackets -/

/-- How many times the component can be taken, one after the other. -/
def dimensions (t : TypeName) : Nat :=
  match _h : t.component? with
  | some c => c.dimensions + 1
  | none => 0
  termination_by t.text.length
  decreasing_by exact component?_length _h

/-- So many pairs of brackets. -/
def brackets (n : Nat) : String := String.ofList (List.replicate n ['[', ']']).flatten

/-- One more pair of brackets stands at the end. -/
theorem brackets_succ (n : Nat) : brackets (n + 1) = brackets n ++ "[]" := by
  rw [← String.toList_inj, String.toList_append, brackets, brackets, String.toList_ofList,
    String.toList_ofList, List.replicate_succ', List.flatten_append]
  rfl

/-- An array has one dimension more than its component. -/
theorem dimensions_of_component? (h : t.component? = some c) :
    t.dimensions = c.dimensions + 1 := by
  rw [dimensions]
  split
  · rename_i d hd
    rw [h] at hd
    cases hd
    rfl
  · rename_i hnone
    exact absurd (h.symm.trans hnone) (by simp)

/-- What is no array has no dimensions. -/
theorem dimensions_of_component?_eq_none (h : t.component? = none) : t.dimensions = 0 := by
  rw [dimensions]
  split
  · rename_i d hd
    exact absurd (h.symm.trans hd) (by simp)
  · rfl

/-- An array has the element of its component. -/
theorem element_of_component? (h : t.component? = some c) : t.element = c.element := by
  have hreverse : t.text.toList.reverse = ']' :: '[' :: c.text.toList.reverse := by
    rw [component?_eq_some_iff.mp h, String.toList_append, List.reverse_append]
    rfl
  rw [element, hreverse, dropBrackets, element]

/-- What is no array is its own element. -/
theorem element_of_component?_eq_none (h : t.component? = none) : t.element = t := by
  have hdrop : dropBrackets t.text.toList.reverse = t.text.toList.reverse := by
    unfold dropBrackets
    split
    · rename_i rest hreverse
      have hstrip : stripBrackets? t.text.toList = some rest.reverse := by
        rw [stripBrackets?, hreverse]
        rfl
      rw [component?, hstrip] at h
      exact absurd h (by simp)
    · rfl
  rw [element, hdrop, List.reverse_reverse, String.ofList_toList]

/-- A type is its element and a pair of brackets for each time that the component can be taken. -/
theorem text_eq_element_append (t : TypeName) :
    t.text = t.element.text ++ brackets t.dimensions := by
  -- From the component to the array, one pair at a time.
  induction t using dimensions.induct with
  | case1 t c h ih =>
      rw [component?_eq_some_iff.mp h, element_of_component? h, dimensions_of_component? h,
        brackets_succ, ← String.append_assoc, ← ih]
  | case2 t h =>
      rw [element_of_component?_eq_none h, dimensions_of_component?_eq_none h]
      exact String.append_empty.symm

/-- No element is an array. -/
theorem not_isArray_element (t : TypeName) : t.element.isArray = false := by
  induction t using dimensions.induct with
  | case1 t c h ih => rw [element_of_component? h, ih]
  | case2 t h => rw [element_of_component?_eq_none h, isArray, h, Option.isSome_none]

/-- Arrays are the types that end in a pair of brackets. -/
theorem isArray_iff_suffix : t.isArray = true ↔ ['[', ']'] <:+ t.text.toList := by
  rw [isArray, Option.isSome_iff_exists]
  constructor
  · rintro ⟨c, hc⟩
    rw [component?_eq_some_iff.mp hc, String.toList_append]
    exact List.suffix_append _ _
  · rintro ⟨front, hfront⟩
    refine ⟨⟨String.ofList front⟩, component?_eq_some_iff.mpr ?_⟩
    rw [← String.toList_inj, String.toList_append, String.toList_ofList, ← hfront]
    rfl

/-- No array is a primitive type. -/
theorem not_isPrimitive_of_isArray (h : t.isArray = true) : t.isPrimitive = false := by
  refine not_isPrimitive_of_mem (show ∀ text ∈ primitiveTexts, ']' ∉ text.toList by decide) ?_
  exact (isArray_iff_suffix.mp h).subset (by decide)

/-! ### Packages -/

/-- A class in a package is the package and its local name, with a dot between them. -/
theorem text_eq_of_package? {package : String} (h : t.package? = some package) :
    t.text = package ++ "." ++ t.localName := by
  unfold package? at h
  split at h
  · exact absurd h (by simp)
  · obtain ⟨⟨before, after⟩, hcut, rfl⟩ := Option.map_eq_some_iff.mp h
    obtain ⟨htext, -⟩ := (splitLast?_eq_some_iff _ _ _ _).mp hcut
    rw [localName, hcut, ← String.toList_inj, htext]
    simp

/-- A class without a package is its local name. -/
theorem text_eq_of_package?_eq_none (hprimitive : t.isPrimitive = false)
    (harray : t.isArray = false) (h : t.package? = none) : t.text = t.localName := by
  rw [package?, hprimitive, harray, Bool.or_false, if_neg (by simp), Option.map_eq_none_iff] at h
  rw [localName, h]

/-- No local name has a dot. -/
theorem dot_not_mem_localName (t : TypeName) : '.' ∉ t.localName.toList := by
  unfold localName
  split
  · rename_i before after hcut
    rw [String.toList_ofList]
    exact ((splitLast?_eq_some_iff _ _ _ _).mp hcut).2
  · rename_i hcut
    exact (splitLast?_eq_none_iff _ _).mp hcut

/-! ### Parts of names that were read -/

/-- With fewer brackets, less can be wrong. -/
theorem IsElement.pred {cs : List Char} {n : Nat} (h : IsElement cs (n + 1)) : IsElement cs n where
  form := h.form
  void_single hvoid := absurd (h.void_single hvoid) (Nat.succ_ne_zero n)

/-- The component of a name that was read is read. -/
theorem IsRead.component (h : t.IsRead) (hc : t.component? = some c) : c.IsRead := by
  obtain ⟨cs, n, hfault, rfl⟩ := exists_of_isRead h
  cases n with
  | zero =>
      -- Without brackets there would be one in the element.
      have hbracket : ']' ∈ (ofElement cs 0).text.toList := by
        rw [component?_eq_some_iff.mp hc, String.toList_append]
        exact List.mem_append_right _ (by decide)
      rw [toList_ofElement, List.replicate_zero, List.flatten_nil, List.append_nil] at hbracket
      exact absurd rfl (plain_of_elementFault? hfault hbracket).2
  | succ n =>
      rw [component?_ofElement_succ, Option.some.injEq] at hc
      subst hc
      have helement := (elementFault?_eq_none_iff.mp hfault).pred
      exact ⟨_, parse_ofElement (elementFault?_eq_none_iff.mpr helement)⟩

/-- The element of a name that was read is read. -/
theorem IsRead.element (h : t.IsRead) : t.element.IsRead := by
  induction t using dimensions.induct with
  | case1 t c hc ih =>
      rw [element_of_component? hc]
      exact ih (h.component hc)
  | case2 t hc =>
      rw [element_of_component?_eq_none hc]
      exact h

/-! ### All parts together -/

/-- The parts of a type make up the type and are names of types themselves. -/
structure Decomposes (t : TypeName) : Prop where
  text_eq : t.text = t.element.text ++ brackets t.dimensions
  component_iff : (∃ c, t.component? = some c ∧ t.text = c.text ++ "[]") ↔ t.isArray = true
  isArray_iff : t.isArray = true ↔ ['[', ']'] <:+ t.text.toList
  parse_component : ∀ c, t.component? = some c → parse c.text = .ok c
  parse_element : parse t.element.text = .ok t.element
  element_not_array : t.element.isArray = false
  array_not_primitive : t.isArray = true → t.isPrimitive = false
  /-- In a package, a class has its name behind the dot after the package. -/
  package : ∀ package, t.package? = some package → t.text = package ++ "." ++ t.localName
  /-- Other classes have no name but the local one. -/
  no_package : t.isArray = false → t.isPrimitive = false → t.package? = none →
    t.text = t.localName
  dot_not_mem : '.' ∉ t.localName.toList

/-- Type names that are read can be taken apart and put together again. -/
theorem decomposes_of_parse {s : String} (h : parse s = .ok t) : t.Decomposes where
  text_eq := text_eq_element_append t
  component_iff := by
    rw [isArray, Option.isSome_iff_exists]
    exact exists_congr fun c => and_iff_left_of_imp component?_eq_some_iff.mp
  isArray_iff := isArray_iff_suffix
  parse_component _ hc := isRead_iff_parse_text.mp (IsRead.component ⟨s, h⟩ hc)
  parse_element := isRead_iff_parse_text.mp (IsRead.element ⟨s, h⟩)
  element_not_array := not_isArray_element t
  array_not_primitive := not_isPrimitive_of_isArray
  package _ := text_eq_of_package?
  no_package harray hprimitive := text_eq_of_package?_eq_none hprimitive harray
  dot_not_mem := dot_not_mem_localName t

end TypeName

namespace NestedArrays

open BindingCompiler.TypeName

/-- A class inside another one, in a package. -/
def listener : TypeName := ⟨"android.view.View$OnClickListener"⟩

/-- The component can be taken twice from an array of arrays, and then a class is left that is the
package and the local name. -/
theorem decomposes_of_parse_listener :
    parse "android.view.View$OnClickListener[][]" = .ok (ofElement listener.text.toList 2)
      ∧ (ofElement listener.text.toList 2).text = listener.text ++ brackets 2
      ∧ parse (ofElement listener.text.toList 1).text = .ok (ofElement listener.text.toList 1)
      ∧ parse listener.text = .ok listener
      ∧ listener.text = "android.view" ++ "." ++ "View$OnClickListener" := by
  have hrow := component?_ofElement_succ listener.text.toList 1
  have hitem := component?_ofElement_succ listener.text.toList 0
  have hclass : ofElement listener.text.toList 0 = listener := by decide
  have hno : listener.component? = none := by decide
  have helement : (ofElement listener.text.toList 2).element = listener := by
    rw [element_of_component? hrow, element_of_component? hitem, hclass,
      element_of_component?_eq_none hno]
  have hdimensions : (ofElement listener.text.toList 2).dimensions = 2 := by
    rw [dimensions_of_component? hrow, dimensions_of_component? hitem, hclass,
      dimensions_of_component?_eq_none hno]
  have hread : parse "android.view.View$OnClickListener[][]"
      = .ok (ofElement listener.text.toList 2) := by
    have hfault : elementFault? listener.text.toList 2 = none := by decide
    have htext : (ofElement listener.text.toList 2).text
        = "android.view.View$OnClickListener[][]" := by decide
    have hself := parse_ofElement hfault
    rwa [htext] at hself
  have harray := decomposes_of_parse hread
  have htext := harray.text_eq
  have hinner := harray.parse_element
  rw [helement] at htext hinner
  rw [hdimensions] at htext
  have hpackage : listener.package? = some "android.view" := by decide
  have hlocal : listener.localName = "View$OnClickListener" := by decide
  have hparts := (decomposes_of_parse hinner).package _ hpackage
  rw [hlocal] at hparts
  exact ⟨hread, htext, harray.parse_component _ hrow, hinner, hparts⟩

end NestedArrays

end BindingCompiler
