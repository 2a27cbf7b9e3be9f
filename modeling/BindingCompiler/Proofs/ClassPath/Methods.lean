import BindingCompiler.Proofs.ClassPath.Reachability

/-!
# `BindingCompiler.Proofs.ClassPath.Methods`: inherited methods by signature

Both method lookups of a class path keep the first declaration of each
signature (`Method.firstOfEach`), in the order of the walk over the
supertypes. A type has a method when the type itself or a declared
supertype that it reaches declares it (`HasMethod`).

* `signature_mem_firstOfEach`: no signature is lost by keeping the first
  declarations, and `nodup_firstOfEach`: none stays twice.
* `mem_firstOfEach_iff`: what stays is the first method of its signature.
* `hasMethod_of_mem_findMethods` and `exists_mem_findMethods`: a lookup
  by name finds methods that the type has, and one for each signature.
* `nodup_abstractMethods`: the open methods of a type differ in their
  signatures.
-/

set_option autoImplicit false

namespace BindingCompiler

namespace Method

/-- The name and the parameter types. -/
def signature (m : Method) : String × List TypeName := (m.name, m.parameters)

/-- The test for a common signature compares the signatures. -/
theorem sameSignature_iff {m n : Method} : m.sameSignature n = true ↔ m.signature = n.signature := by
  simp [sameSignature, signature]

/-- A signature is among those of a list when one of its methods has it. -/
theorem any_sameSignature_iff {m : Method} {l : List Method} :
    l.any (sameSignature m) = true ↔ m.signature ∈ l.map signature := by
  simp only [List.any_eq_true, sameSignature_iff, List.mem_map]
  constructor
  · rintro ⟨n, hn, he⟩
    exact ⟨n, hn, he.symm⟩
  · rintro ⟨n, hn, he⟩
    exact ⟨n, hn, he.symm⟩

/-- The first declarations are declarations, in their order. -/
theorem firstOfEach_sublist (seen l : List Method) : (firstOfEach seen l).Sublist l := by
  induction l generalizing seen with
  | nil => exact .slnil
  | cons m rest ih =>
      unfold firstOfEach
      split
      · exact (ih seen).cons m
      · exact (ih (m :: seen)).cons_cons m

/-- The signatures of the first declarations are all those that are not seen before. -/
theorem signature_mem_firstOfEach {s : String × List TypeName} {seen l : List Method} :
    s ∈ (firstOfEach seen l).map signature ↔ s ∈ l.map signature ∧ s ∉ seen.map signature := by
  induction l generalizing seen with
  | nil => simp [firstOfEach]
  | cons m rest ih =>
      unfold firstOfEach
      split
      · -- The signature is dropped here because it is seen already.
        rename_i hany
        rw [any_sameSignature_iff] at hany
        rw [ih, List.map_cons, List.mem_cons]
        constructor
        · rintro ⟨hs, hn⟩
          exact ⟨.inr hs, hn⟩
        · rintro ⟨rfl | hs, hn⟩
          · exact absurd hany hn
          · exact ⟨hs, hn⟩
      · rename_i hany
        rw [any_sameSignature_iff] at hany
        simp only [List.map_cons, List.mem_cons, ih, not_or]
        constructor
        · rintro (rfl | ⟨hs, -, hn⟩)
          · exact ⟨.inl rfl, hany⟩
          · exact ⟨.inr hs, hn⟩
        · rintro ⟨hs, hn⟩
          by_cases he : s = m.signature
          · exact .inl he
          · exact .inr ⟨hs.resolve_left he, he, hn⟩

/-- A method is kept if it is the first one of its signature, and that is not seen before. -/
theorem mem_firstOfEach_iff {m : Method} {seen l : List Method} :
    m ∈ firstOfEach seen l ↔ m.signature ∉ seen.map signature
      ∧ (l.find? fun n => n.signature == m.signature) = some m := by
  induction l generalizing seen with
  | nil => simp [firstOfEach]
  | cons n rest ih =>
      unfold firstOfEach
      split
      · rename_i hany
        rw [any_sameSignature_iff] at hany
        rw [ih]
        refine and_congr_right fun hnew => ?_
        -- The first one is dropped because it is seen, so it is not of the signature of `m`.
        have hne : n.signature ≠ m.signature := fun he => hnew (he ▸ hany)
        rw [List.find?_cons_of_neg (by simpa using hne)]
      · rename_i hany
        rw [any_sameSignature_iff] at hany
        rw [List.mem_cons, ih, List.map_cons, List.mem_cons, not_or]
        by_cases he : n.signature = m.signature
        · rw [List.find?_cons_of_pos (by simpa using he), Option.some.injEq]
          constructor
          · rintro (rfl | ⟨⟨hne, -⟩, -⟩)
            · exact ⟨hany, rfl⟩
            · exact absurd he.symm hne
          · rintro ⟨-, rfl⟩
            exact .inl rfl
        · rw [List.find?_cons_of_neg (by simpa using he)]
          constructor
          · rintro (rfl | ⟨⟨-, hnew⟩, hfind⟩)
            · exact absurd rfl he
            · exact ⟨hnew, hfind⟩
          · rintro ⟨hnew, hfind⟩
            exact .inr ⟨⟨fun h => he h.symm, hnew⟩, hfind⟩

/-- The first declarations differ in their signatures. -/
theorem nodup_firstOfEach (seen l : List Method) : ((firstOfEach seen l).map signature).Nodup := by
  induction l generalizing seen with
  | nil => simp [firstOfEach]
  | cons m rest ih =>
      unfold firstOfEach
      split
      · exact ih seen
      · rw [List.map_cons, List.nodup_cons]
        refine ⟨fun hmem => ?_, ih (m :: seen)⟩
        exact (signature_mem_firstOfEach.mp hmem).2 (by simp)

end Method

namespace ClassPath

/-- A type has a method that it declares itself or that a declared
supertype it reaches declares. -/
def HasMethod (cp : ClassPath) (t : TypeName) (m : Method) : Prop :=
  ∃ c, cp.get? c.name = some c ∧ cp.Reaches t c.name ∧ m ∈ c.methods

variable {cp : ClassPath} {t : TypeName} {name : String} {m : Method}

/-- What a type has is what the classes of its walk declare. -/
theorem hasMethod_iff : cp.HasMethod t m ↔ ∃ c ∈ cp.hierarchy t, m ∈ c.methods := by
  constructor
  · rintro ⟨c, hget, hreach, hm⟩
    exact ⟨c, mem_hierarchy_iff.mpr ⟨hget, hreach⟩, hm⟩
  · rintro ⟨c, hc, hm⟩
    obtain ⟨hget, hreach⟩ := mem_hierarchy_iff.mp hc
    exact ⟨c, hget, hreach, hm⟩

/-- The candidates of a lookup by name are the methods of that name. -/
theorem mem_candidates_iff :
    (m ∈ (cp.hierarchy t).flatMap fun c => c.methods.filter fun m => m.name == name)
      ↔ cp.HasMethod t m ∧ m.name = name := by
  simp only [List.mem_flatMap, List.mem_filter, beq_iff_eq, hasMethod_iff]
  constructor
  · rintro ⟨c, hc, hm, hname⟩
    exact ⟨⟨c, hc, hm⟩, hname⟩
  · rintro ⟨⟨c, hc, hm⟩, hname⟩
    exact ⟨c, hc, hm, hname⟩

/-- A lookup by name finds methods that the type has, under that name. -/
theorem hasMethod_of_mem_findMethods (h : m ∈ cp.findMethods t name) :
    cp.HasMethod t m ∧ m.name = name :=
  mem_candidates_iff.mp ((Method.firstOfEach_sublist _ _).mem h)

/-- A lookup by name finds a method of every signature that the type has under the name. -/
theorem exists_mem_findMethods (h : cp.HasMethod t m) (hname : m.name = name) :
    ∃ n ∈ cp.findMethods t name, n.signature = m.signature := by
  have hmem := List.mem_map_of_mem (f := Method.signature) (mem_candidates_iff.mpr ⟨h, hname⟩)
  exact List.mem_map.mp (Method.signature_mem_firstOfEach.mpr ⟨hmem, List.not_mem_nil⟩)

/-- The abstract methods that a type leaves open differ in their signatures. -/
theorem nodup_abstractMethods (cp : ClassPath) (t : TypeName) :
    ((cp.abstractMethods t).map Method.signature).Nodup :=
  (Method.nodup_firstOfEach _ _).sublist (List.filter_sublist.map _)

end ClassPath

end BindingCompiler
