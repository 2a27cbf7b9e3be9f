import BindingCompiler.Output.Basic
import BindingCompiler.Plan.Naming
import BindingCompiler.Proofs.Declaration.Readings
import Mathlib.Data.List.Basic

/-!
# `BindingCompiler.Proofs.TypeName.Package`: packages and local names

A class is known by its package and the rest of its name (`eq_of_packageSteps_of_localName`),
since the parts of a package have no dots. A target is known by its binding class, which has the
name of the target with a suffix (`bindingType_injective`), and the factory is the binding class
of no target (`factoryType_isClass`). A class inside another one is no primitive type, whatever
the other one is, and an array only if its own name ends in brackets. It is in the same package
unless the other one is an array, which has none (`package?_nested`).

What a name was read from says more (`TypeName.IsRead`): its segments are not empty and have
characters of names (`segmentFault?_of_elementFault?`). So it has no slashes, and no part of its
package is empty.
-/

set_option autoImplicit false

namespace BindingCompiler

/-- Of two ends of a text, the one without separators is the end of the part after a
separator. -/
theorem exists_of_append_eq_append_cons {a b before after : List Char} {separator : Char}
    (h : a ++ b = before ++ separator :: after) (hb : separator ∉ b) :
    ∃ rest, a = before ++ separator :: rest ∧ after = rest ++ b := by
  -- The separator is in the second end, or it is in the first one.
  rcases List.append_eq_append_iff.mp h with ⟨between, rfl, hend⟩ | ⟨between, rfl, hend⟩
  · exact absurd (hend ▸ by simp) hb
  · cases between with
    | nil => exact absurd (List.nil_append b ▸ hend ▸ List.mem_cons_self) hb
    | cons c rest =>
        obtain ⟨rfl, rfl⟩ := List.cons.inj hend
        exact ⟨rest, rfl, rfl⟩

/-- A text ends in the last character of its second part, if that has one. -/
theorem getLast?_append {suffix : String} {c : Char} (h : suffix.toList.getLast? = some c)
    (front : String) : (front ++ suffix).toList.getLast? = some c := by
  rw [String.toList_append, List.getLast?_append, h]
  rfl

/-! ### Names that are read -/

namespace TypeName

open Text

variable {t u : TypeName} {element : List Char} {dimensions : Nat}

/-- A type name that was read is an element without a fault and brackets. -/
theorem exists_of_isRead (h : t.IsRead) : ∃ (element : List Char) (dimensions : Nat),
    elementFault? element dimensions = none ∧ t = ofElement element dimensions := by
  obtain ⟨s, hs⟩ := h
  unfold parse at hs
  dsimp only at hs
  split at hs
  · exact absurd hs (by simp)
  · split at hs
    · exact absurd hs (by simp)
    · rename_i hfault
      cases hs
      exact ⟨_, _, hfault, rfl⟩

/-! ### Elements -/

/-- A segment without a fault starts with no digit and has characters of names only. -/
theorem segmentFault?_eq_none_iff {segment : List Char} : segmentFault? segment = none
    ↔ ∃ first rest, segment = first :: rest ∧ isAsciiDigit first = false
      ∧ ∀ c ∈ segment, isSegmentChar c = true := by
  cases segment with
  | nil => simp [segmentFault?]
  | cons first rest =>
      rw [segmentFault?]
      constructor
      · intro h
        split at h
        · exact absurd h (by simp)
        · rename_i hdigit
          split at h
          · rename_i hall
            exact ⟨first, rest, rfl, by simpa using hdigit, List.all_eq_true.mp hall⟩
          · exact absurd h (by simp)
      · rintro ⟨_, _, heq, hdigit, hall⟩
        obtain ⟨rfl, rfl⟩ := List.cons.inj heq
        rw [if_neg (by simp [hdigit]), if_pos (List.all_eq_true.mpr hall)]

/-- Primitive types are segments as well. -/
theorem segmentFault?_of_primitive {name : String} (h : name ∈ primitiveTexts) :
    ∀ segment ∈ segments '.' name.toList, segmentFault? segment = none := by
  have hall : ∀ name ∈ primitiveTexts, ∀ segment ∈ segments '.' name.toList,
      segmentFault? segment = none := by decide
  exact hall name h

/-- The segments of an element without a fault have none. Primitive types are not looked at in
parts. -/
theorem segmentFault?_of_elementFault? (h : elementFault? element dimensions = none) :
    ∀ segment ∈ segments '.' element, segmentFault? segment = none := by
  unfold elementFault? at h
  split at h
  · exact absurd h (by simp)
  · split at h
    · rename_i hmem
      have hsegments := segmentFault?_of_primitive (List.contains_iff_mem.mp hmem)
      rwa [String.toList_ofList] at hsegments
    · exact List.findSome?_eq_none_iff.mp h

/-- An element without a fault has characters of names and dots. -/
theorem char_of_elementFault? (h : elementFault? element dimensions = none) {c : Char}
    (hc : c ∈ element) : isSegmentChar c = true ∨ c = '.' := by
  by_cases hdot : c = '.'
  · exact .inr hdot
  · obtain ⟨segment, hsegment, hmem⟩ := exists_mem_segments '.' hc hdot
    have hfault := segmentFault?_of_elementFault? h segment hsegment
    obtain ⟨-, -, -, -, hall⟩ := segmentFault?_eq_none_iff.mp hfault
    exact .inl (hall c hmem)

/-! ### Slashes and empty parts -/

/-- An array is written as its element and a pair of brackets for each dimension. -/
theorem toList_ofElement (element : List Char) (dimensions : Nat) :
    (ofElement element dimensions).text.toList
      = element ++ (List.replicate dimensions ['[', ']']).flatten := by
  rw [ofElement, String.toList_ofList]

/-- Brackets are neither dots nor slashes. -/
theorem not_mem_brackets {c : Char} (hopen : c ≠ '[') (hclose : c ≠ ']') (dimensions : Nat) :
    c ∉ (List.replicate dimensions ['[', ']']).flatten := by
  intro hc
  obtain ⟨pair, hpair, hc⟩ := List.mem_flatten.mp hc
  rw [List.eq_of_mem_replicate hpair] at hc
  simp [hopen, hclose] at hc

/-- A type name that was read has no slashes. -/
theorem slash_not_mem (h : t.IsRead) : '/' ∉ t.text.toList := by
  obtain ⟨element, dimensions, hfault, rfl⟩ := exists_of_isRead h
  rw [toList_ofElement, List.mem_append]
  rintro (hslash | hslash)
  · have hchar : isSegmentChar '/' = true ∨ '/' = '.' := char_of_elementFault? hfault hslash
    exact absurd hchar (by decide)
  · exact not_mem_brackets (by decide) (by decide) dimensions hslash

/-- No part of the package of a type name that was read is empty. -/
theorem ne_nil_of_mem_package (h : t.IsRead) {before after part : List Char}
    (ht : t.text.toList = before ++ '.' :: after) (hpart : part ∈ segments '.' before) :
    part ≠ [] := by
  obtain ⟨element, dimensions, hfault, rfl⟩ := exists_of_isRead h
  rw [toList_ofElement] at ht
  obtain ⟨rest, rfl, -⟩ := exists_of_append_eq_append_cons ht
    (not_mem_brackets (by decide) (by decide) dimensions)
  have hsegment : part ∈ segments '.' (before ++ '.' :: rest) := by
    rw [segments_append_cons]
    exact List.mem_append_left _ hpart
  obtain ⟨first, more, rfl, -, -⟩ :=
    segmentFault?_eq_none_iff.mp (segmentFault?_of_elementFault? hfault part hsegment)
  exact List.cons_ne_nil first more

/-! ### Packages and local names -/

/-- A class without a package is where its name says, and one with a package is in it. -/
theorem packageSteps_cases (hprimitive : t.isPrimitive = false) (harray : t.isArray = false) :
    (Output.packageSteps t = [] ∧ t.localName = t.text)
      ∨ ∃ before after, t.text.toList = before ++ '.' :: after
        ∧ Output.packageSteps t = (segments '.' before).map String.ofList
        ∧ t.localName = String.ofList after := by
  have hpackage : t.package? = (splitLast? '.' t.text.toList).map fun cut => String.ofList cut.1 := by
    rw [package?, hprimitive, harray]
    rfl
  unfold Output.packageSteps localName
  rw [hpackage]
  cases hcut : splitLast? '.' t.text.toList with
  | none => exact .inl ⟨rfl, rfl⟩
  | some cut =>
      obtain ⟨before, after⟩ := cut
      refine .inr ⟨before, after, ((splitLast?_eq_some_iff _ _ _ _).mp hcut).1, ?_, rfl⟩
      simp only [Option.map_some, String.toList_ofList]

/-- A class is known by its package and its name there. -/
theorem eq_of_packageSteps_of_localName (ht : t.isPrimitive = false) (ht' : t.isArray = false)
    (hu : u.isPrimitive = false) (hu' : u.isArray = false)
    (hsteps : Output.packageSteps t = Output.packageSteps u) (hlocal : t.localName = u.localName) :
    t = u := by
  have hne : ∀ before : List Char, (segments '.' before).map String.ofList ≠ [] := by
    intro before h
    exact segments_ne_nil _ _ (List.map_eq_nil_iff.mp h)
  rcases packageSteps_cases ht ht' with ⟨hnil, hname⟩ | ⟨before, after, htext, hfront, hname⟩
  · rcases packageSteps_cases hu hu' with ⟨-, hname'⟩ | ⟨before', after', -, hfront', -⟩
    · exact eq_of_text (by rw [← hname, hlocal, hname'])
    · exact absurd (by rw [← hfront', ← hsteps, hnil]) (hne before')
  · rcases packageSteps_cases hu hu' with ⟨hnil', -⟩ | ⟨before', after', htext', hfront', hname'⟩
    · exact absurd (by rw [← hfront, hsteps, hnil']) (hne before)
    · have hsegments : segments '.' before = segments '.' before' := by
        refine List.map_injective_iff.mpr (fun a b h => String.ofList_injective h) ?_
        rw [← hfront, hsteps, hfront']
      have hbefore : before = before' := by
        rw [← joinWith_segments '.' before, hsegments, joinWith_segments]
      have hafter : after = after' := by
        rw [← String.ofList_inj, ← hname, hlocal, hname']
      exact eq_of_text (String.toList_inj.mp (by rw [htext, htext', hbefore, hafter]))

/-! ### Classes inside a class -/

/-- A nested class is written behind a dollar. -/
theorem toList_nested (t : TypeName) (suffix : String) :
    (t.nested suffix).text.toList = t.text.toList ++ '$' :: suffix.toList := by
  rw [nested, String.append_assoc, String.toList_append, String.toList_append]
  rfl

/-- A name with a character that no primitive type has is not one of them. -/
theorem not_isPrimitive_of_mem {c : Char} (hnone : ∀ text ∈ primitiveTexts, c ∉ text.toList)
    (h : c ∈ t.text.toList) : t.isPrimitive = false := by
  rw [isPrimitive, Bool.eq_false_iff]
  intro hmem
  exact hnone _ (List.contains_iff_mem.mp hmem) h

/-- No nested class is a primitive type, since none of those has a dollar. -/
theorem not_isPrimitive_nested (t : TypeName) (suffix : String) :
    (t.nested suffix).isPrimitive = false := by
  refine not_isPrimitive_of_mem (show ∀ text ∈ primitiveTexts, '$' ∉ text.toList by decide) ?_
  rw [toList_nested]
  exact List.mem_append_right _ List.mem_cons_self

/-- A name inside a class does not end in a bracket unless the name it has there does. -/
theorem not_isArray_nested {suffix : String} (h : ']' ∉ suffix.toList) (t : TypeName) :
    (t.nested suffix).isArray = false := by
  cases hcomponent : (t.nested suffix).component? with
  | none =>
      rw [isArray, hcomponent]
      rfl
  | some c =>
      have htext := congrArg String.toList (component?_eq_some_iff.mp hcomponent)
      rw [toList_nested, String.toList_append] at htext
      have hlast := congrArg List.getLast? htext
      rw [List.getLast?_append, List.getLast?_append] at hlast
      -- The last character is a bracket, and it stands in the suffix or is the dollar before it.
      have hend : ('$' :: suffix.toList).getLast? = some ']' := by
        simpa [List.getLast?_cons] using hlast
      have hmem := List.mem_of_getLast? hend
      rcases List.mem_cons.mp hmem with hdollar | hmem
      · exact absurd hdollar (by decide)
      · exact absurd hmem h

/-- A class inside another one is in its package. -/
theorem package?_nested (harray : t.isArray = false) {suffix : String}
    (hdot : '.' ∉ suffix.toList) (hbracket : ']' ∉ suffix.toList) :
    (t.nested suffix).package? = t.package? := by
  have htail : '.' ∉ '$' :: suffix.toList := by simp [hdot]
  unfold package?
  rw [not_isPrimitive_nested, not_isArray_nested hbracket, harray, toList_nested]
  cases hcut : splitLast? '.' t.text.toList with
  | none =>
      -- Without a dot neither of them has a package.
      have hno := (splitLast?_eq_none_iff _ _).mp hcut
      have hnone : splitLast? '.' (t.text.toList ++ '$' :: suffix.toList) = none :=
        (splitLast?_eq_none_iff _ _).mpr (List.not_mem_append hno htail)
      rw [hnone]
      cases t.isPrimitive <;> rfl
  | some cut =>
      obtain ⟨before, after⟩ := cut
      obtain ⟨htext, hno⟩ := (splitLast?_eq_some_iff _ _ _ _).mp hcut
      have hsome : splitLast? '.' (t.text.toList ++ '$' :: suffix.toList)
          = some (before, after ++ '$' :: suffix.toList) := by
        refine (splitLast?_eq_some_iff _ _ _ _).mpr ⟨?_, List.not_mem_append hno htail⟩
        rw [htext, List.append_assoc, List.cons_append]
      have hprimitive : t.isPrimitive = false := by
        have hdot : '.' ∈ t.text.toList := htext ▸ List.mem_append_right _ List.mem_cons_self
        exact not_isPrimitive_of_mem (by decide) hdot
      rw [hsome, hprimitive]
      rfl

/-! ### Binding classes -/

/-- A binding class is named after its target. -/
theorem text_bindingType (target : TypeName) :
    (bindingType target).text = target.text ++ "$SentoBinding" := by
  show target.text ++ "$" ++ "SentoBinding" = _
  rw [String.append_assoc]
  rfl

/-- It is a class, even where the target is an array or a primitive type. -/
theorem bindingType_isClass (target : TypeName) :
    (bindingType target).isPrimitive = false ∧ (bindingType target).isArray = false :=
  ⟨not_isPrimitive_nested _ _, not_isArray_nested (by decide) _⟩

/-- A target is known by its binding class. -/
theorem bindingType_injective (h : bindingType t = bindingType u) : t = u := by
  have htext : (bindingType t).text.toList = (bindingType u).text.toList := by rw [h]
  rw [text_bindingType, text_bindingType, String.toList_append, String.toList_append] at htext
  exact eq_of_text (String.toList_inj.mp (List.append_cancel_right htext))

/-- The factory is a class, and no binding class. -/
theorem factoryType_isClass : factoryType.isPrimitive = false ∧ factoryType.isArray = false
    ∧ ∀ target, bindingType target ≠ factoryType := by
  refine ⟨by decide, by decide, ?_⟩
  intro target h
  have hletter : (bindingType target).text.toList.getLast? = some 'g' := by
    rw [text_bindingType]
    exact getLast?_append (by decide) _
  rw [h] at hletter
  exact absurd hletter (by decide)

end TypeName

end BindingCompiler
