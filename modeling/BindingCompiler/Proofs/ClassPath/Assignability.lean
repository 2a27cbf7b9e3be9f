import BindingCompiler.Proofs.ClassPath.Reachability

/-!
# `BindingCompiler.Proofs.ClassPath.Assignability`: chains of conversions

`ClassPath.isAssignable` descends through array types and asks for a
subclass at the bottom. `Assignable` gives the same relation by rules,
one for each way in which a value converts without a cast.

* `isAssignable_iff`: the computed relation is the one given by rules.
* `isAssignable_trans`: two conversions in a row are one conversion,
  over cyclic declarations too, if `java.lang.Object` has no supertypes
  (`ObjectIsRoot`). Without that, a type above `java.lang.Object` would
  take every object but no array.
* `isAssignable_preorder`: so the relation is a preorder, in which a
  primitive type is related only to itself.
-/

set_option autoImplicit false

namespace BindingCompiler

/-- An array type is no primitive type. -/
theorem TypeName.isPrimitive_of_component? {t c : TypeName} (h : t.component? = some c) :
    t.isPrimitive = false := by
  have hnone : ∀ s ∈ primitiveTexts, (⟨s⟩ : TypeName).component? = none := by decide
  cases hp : t.isPrimitive with
  | false => rfl
  | true =>
      rw [isPrimitive, List.contains_iff_mem] at hp
      exact absurd h (by rw [show t = ⟨t.text⟩ from rfl, hnone t.text hp]; simp)

/-- `java.lang.Object` is no array type. -/
theorem TypeName.component?_object : TypeName.object.component? = none := by decide

namespace ClassPath

/-- A declaration of `java.lang.Object` names no supertypes. -/
def ObjectIsRoot (cp : ClassPath) : Prop := ∀ c, cp.get? .object = some c → c.supertypes = []

/-- A plain declaration of `java.lang.Object` names none. -/
theorem objectIsRoot_of_plain {cp : ClassPath} (h : cp.get? .object = some (.plain .object)) :
    cp.ObjectIsRoot := by
  intro c hc
  rw [h] at hc
  cases hc
  rfl

/-- The ways in which a value of one type can be stored as another without a cast. -/
inductive Assignable (cp : ClassPath) : TypeName → TypeName → Prop
  /-- A type is stored as itself. -/
  | same (t : TypeName) : Assignable cp t t
  /-- Arrays of references convert item by item. -/
  | items {a b x y : TypeName} (ha : a.component? = some x) (hb : b.component? = some y)
      (hx : x.isReference = true) (hy : y.isReference = true) (h : Assignable cp x y) :
      Assignable cp a b
  /-- Every array is an object. -/
  | arrayAsObject {a x : TypeName} (ha : a.component? = some x) : Assignable cp a .object
  /-- A class or an interface converts to what it inherits from. -/
  | inherited {a b : TypeName} (ha : a.component? = none) (hb : b.component? = none)
      (hpa : a.isPrimitive = false) (hpb : b.isPrimitive = false)
      (h : b = .object ∨ Relation.TransGen cp.Extends a b) : Assignable cp a b

variable {cp : ClassPath} {a b c : TypeName}

/-- A type is assignable to itself. -/
theorem isAssignable_self (cp : ClassPath) (a : TypeName) : cp.isAssignable a a = true := by
  rw [isAssignable, if_pos rfl]

/-- Between distinct reference types, the components decide. -/
theorem isAssignable_reference (hne : a ≠ b) (hprim : ¬ (a.isPrimitive || b.isPrimitive) = true) :
    cp.isAssignable a b =
      match a.component?, b.component? with
      | some x, some y => x.isReference && y.isReference && cp.isAssignable x y
      | some _, none => b == .object
      | none, some _ => false
      | none, none => cp.isSubclassOf a b := by
  rw [isAssignable, if_neg hne, if_neg hprim]
  split <;> rename_i hx hy <;> rw [hx, hy]

/-- The computed relation holds only by the rules. -/
theorem assignable_of_isAssignable (h : cp.isAssignable a b = true) : cp.Assignable a b := by
  induction a, b using isAssignable.induct with
  | case1 b => exact .same b
  | case2 a b hne hprim =>
      rw [isAssignable, if_neg hne, if_pos hprim] at h
      exact absurd h (by decide)
  | case3 a b hne hprim x y hx hy ih =>
      rw [isAssignable_reference hne hprim, hx, hy] at h
      simp only [Bool.and_eq_true] at h
      exact .items hx hy h.1.1 h.1.2 (ih h.2)
  | case4 a b hne hprim x hx hy =>
      rw [isAssignable_reference hne hprim, hx, hy] at h
      rw [beq_iff_eq.mp h]
      exact .arrayAsObject hx
  | case5 a b hne hprim y hx hy =>
      rw [isAssignable_reference hne hprim, hx, hy] at h
      exact absurd h Bool.false_ne_true
  | case6 a b hne hprim hx hy =>
      rw [isAssignable_reference hne hprim, hx, hy] at h
      obtain heq | ⟨hpa, hpb, h⟩ := isSubclassOf_iff.mp h
      · exact absurd heq hne
      · exact .inherited hx hy hpa hpb h

/-- The rules give nothing that is not computed. -/
theorem Assignable.isAssignable (h : cp.Assignable a b) : cp.isAssignable a b = true := by
  induction h with
  | same t => exact isAssignable_self cp t
  | @items a b x y ha hb hx hy _ ih =>
      by_cases hne : a = b
      · exact hne ▸ isAssignable_self cp a
      · have hprim : ¬ (a.isPrimitive || b.isPrimitive) = true := by
          simp [TypeName.isPrimitive_of_component? ha, TypeName.isPrimitive_of_component? hb]
        rw [isAssignable_reference hne hprim, ha, hb]
        simp [hx, hy, ih]
  | @arrayAsObject a x ha =>
      have hne : a ≠ .object := by
        rintro rfl
        exact absurd (TypeName.component?_object.symm.trans ha) (by simp)
      have hobject : TypeName.object.isPrimitive = false := by decide
      have hprim : ¬ (a.isPrimitive || TypeName.object.isPrimitive) = true := by
        simp [TypeName.isPrimitive_of_component? ha, hobject]
      rw [isAssignable_reference hne hprim, ha, TypeName.component?_object]
      simp
  | @inherited a b ha hb hpa hpb h =>
      by_cases hne : a = b
      · exact hne ▸ isAssignable_self cp a
      · rw [isAssignable_reference hne (by simp [hpa, hpb]), ha, hb]
        exact isSubclassOf_iff.mpr (.inr ⟨hpa, hpb, h⟩)

/-- The computed relation is the one given by rules. -/
theorem isAssignable_iff : cp.isAssignable a b = true ↔ cp.Assignable a b :=
  ⟨assignable_of_isAssignable, Assignable.isAssignable⟩

/-- The root of the types has no direct supertype. -/
theorem ObjectIsRoot.not_extends (hroot : cp.ObjectIsRoot) (t : TypeName) :
    ¬ cp.Extends .object t := by
  rintro ⟨c, hc, ht⟩
  simp [hroot c hc] at ht

/-- No chain of supertypes starts at the root. -/
theorem ObjectIsRoot.not_transGen (hroot : cp.ObjectIsRoot) (t : TypeName) :
    ¬ Relation.TransGen cp.Extends .object t := by
  intro h
  obtain ⟨u, hu, -⟩ := Relation.TransGen.head'_iff.mp h
  exact hroot.not_extends u hu

/-- Two conversions in a row are one conversion. -/
theorem Assignable.trans (hroot : cp.ObjectIsRoot) (hab : cp.Assignable a b)
    (hbc : cp.Assignable b c) : cp.Assignable a c := by
  -- On the first conversion, for only arrays recurse. Whether the middle type
  -- is an array then leaves few rules for the second conversion.
  induction hab generalizing c with
  | same t => exact hbc
  | @items a b x y ha hb hx hy hxy ih =>
      cases hbc with
      | same => exact .items ha hb hx hy hxy
      | items hb' hc hy' hz hyz =>
          rw [hb] at hb'
          cases hb'
          exact .items ha hc hx hz (ih hyz)
      | arrayAsObject => exact .arrayAsObject ha
      | inherited hb' => exact absurd (hb.symm.trans hb') (by simp)
  | @arrayAsObject a x ha =>
      cases hbc with
      | same => exact .arrayAsObject ha
      | items hb => exact absurd (TypeName.component?_object.symm.trans hb) (by simp)
      | arrayAsObject hb => exact absurd (TypeName.component?_object.symm.trans hb) (by simp)
      | inherited _ _ _ _ h =>
          -- The middle type is the root, and nothing lies above it.
          rcases h with rfl | h
          · exact .arrayAsObject ha
          · exact absurd h (hroot.not_transGen c)
  | @inherited a b ha hb hpa hpb h =>
      cases hbc with
      | same => exact .inherited ha hb hpa hpb h
      | items hb' => exact absurd (hb.symm.trans hb') (by simp)
      | arrayAsObject hb' => exact absurd (hb.symm.trans hb') (by simp)
      | inherited _ hc _ hpc h' =>
          refine .inherited ha hc hpa hpc ?_
          rcases h' with rfl | h'
          · exact .inl rfl
          · rcases h with rfl | h
            · exact absurd h' (hroot.not_transGen c)
            · exact .inr (h.trans h')

/-- Two assignments in a row can be made as one. -/
theorem isAssignable_trans (hroot : cp.ObjectIsRoot) (hab : cp.isAssignable a b = true)
    (hbc : cp.isAssignable b c = true) : cp.isAssignable a c = true :=
  isAssignable_iff.mpr ((isAssignable_iff.mp hab).trans hroot (isAssignable_iff.mp hbc))

/-- A primitive type is assignable only to itself, and only itself is assignable to it. -/
theorem isAssignable_iff_eq_of_isPrimitive (cp : ClassPath)
    (hprim : a.isPrimitive = true ∨ b.isPrimitive = true) :
    cp.isAssignable a b = true ↔ a = b := by
  constructor
  · intro h
    by_cases heq : a = b
    · exact heq
    · rw [isAssignable, if_neg heq, if_pos (by simpa using hprim)] at h
      exact absurd h (by decide)
  · rintro rfl
    exact isAssignable_self cp a

/-- Assignability is a preorder, and primitive types are related to nothing else in it. -/
theorem isAssignable_preorder (hroot : cp.ObjectIsRoot) :
    (∀ a, cp.isAssignable a a = true)
      ∧ (∀ a b c, cp.isAssignable a b = true → cp.isAssignable b c = true →
        cp.isAssignable a c = true)
      ∧ ∀ a b, a.isPrimitive = true ∨ b.isPrimitive = true →
        (cp.isAssignable a b = true ↔ a = b) :=
  ⟨isAssignable_self cp, fun _ _ _ => isAssignable_trans hroot,
    fun _ _ => isAssignable_iff_eq_of_isPrimitive cp⟩

/-! ### Casts -/

/-- A type is castable to itself. -/
theorem isCastable_self (cp : ClassPath) (a : TypeName) : cp.isCastable a a = true := by
  rw [isCastable, isAssignable_self, Bool.true_or]

/-- What can be cast one way can be cast the other way. -/
theorem isCastable_comm (cp : ClassPath) (a b : TypeName) :
    cp.isCastable a b = cp.isCastable b a := by
  rw [isCastable, isCastable, Bool.or_comm]

/-- Castable types are equal if one of them is primitive. -/
theorem eq_of_isCastable (h : cp.isCastable a b = true)
    (hprimitive : a.isPrimitive = true ∨ b.isPrimitive = true) : a = b := by
  rcases Bool.or_eq_true_iff.mp h with h | h
  · exact (isAssignable_iff_eq_of_isPrimitive cp hprimitive).mp h
  · exact ((isAssignable_iff_eq_of_isPrimitive cp hprimitive.symm).mp h).symm

/-- Every reference type is castable to `java.lang.Object`. -/
theorem isCastable_object (cp : ClassPath) (ha : a.isPrimitive = false) :
    cp.isCastable a .object = true := by
  have hassignable : cp.Assignable a .object := by
    cases hitem : a.component? with
    | some x => exact .arrayAsObject hitem
    | none =>
        have hobject : TypeName.object.isPrimitive = false := by decide
        exact .inherited hitem TypeName.component?_object ha hobject (.inl rfl)
  rw [isCastable, isAssignable_iff.mpr hassignable, Bool.true_or]

/-- A class or an interface converts to what it reaches and to `java.lang.Object`, and to
no other class or interface. -/
theorem isAssignable_iff_reaches (ha : a.component? = none) (hb : b.component? = none)
    (hpa : a.isPrimitive = false) (hpb : b.isPrimitive = false) :
    cp.isAssignable a b = true ↔ b = .object ∨ cp.Reaches a b := by
  rw [isAssignable_iff]
  constructor
  · intro h
    cases h with
    | same => exact .inr .refl
    | items ha' => exact absurd (ha.symm.trans ha') (by simp)
    | arrayAsObject => exact .inl rfl
    | inherited _ _ _ _ h => exact h.imp_right Relation.TransGen.to_reflTransGen
  · intro h
    rcases h with rfl | h
    · exact .inherited ha hb hpa hpb (.inl rfl)
    · rcases Relation.reflTransGen_iff_eq_or_transGen.mp h with rfl | h
      · exact .same b
      · exact .inherited ha hb hpa hpb (.inr h)

/-- Classes and interfaces can be cast along a line of the hierarchy, from and to
`java.lang.Object`, and in no other way. -/
theorem isCastable_iff_reaches (ha : a.component? = none) (hb : b.component? = none)
    (hpa : a.isPrimitive = false) (hpb : b.isPrimitive = false) :
    cp.isCastable a b = true
      ↔ (b = .object ∨ a = .object) ∨ cp.Reaches a b ∨ cp.Reaches b a := by
  rw [isCastable, Bool.or_eq_true, isAssignable_iff_reaches ha hb hpa hpb,
    isAssignable_iff_reaches hb ha hpb hpa, or_or_or_comm]

/-- A class or an interface does not convert to another one that its walk does not name. -/
theorem isAssignable_eq_false (hne : a ≠ b) (hroot : b ≠ .object) (ha : a.component? = none)
    (hb : b.component? = none)
    (hwalk : ((cp.hierarchy a).any fun c => c.supertypes.contains b) = false) :
    cp.isAssignable a b = false := by
  cases h : cp.isAssignable a b with
  | false => rfl
  | true =>
      cases isAssignable_iff.mp h with
      | same => exact absurd rfl hne
      | items ha' => exact absurd (ha.symm.trans ha') (by simp)
      | arrayAsObject => exact absurd rfl hroot
      | inherited _ _ _ _ hline =>
          rw [any_hierarchy_iff.mpr (hline.resolve_left hroot)] at hwalk
          exact absurd hwalk (by decide)

/-- Classes and interfaces are not castable if neither is named in the other's walk. -/
theorem isCastable_eq_false (hne : a ≠ b) (hroot : a ≠ .object ∧ b ≠ .object)
    (hitems : a.component? = none ∧ b.component? = none)
    (hwalk : ((cp.hierarchy a).any fun c => c.supertypes.contains b) = false)
    (hback : ((cp.hierarchy b).any fun c => c.supertypes.contains a) = false) :
    cp.isCastable a b = false := by
  rw [isCastable, isAssignable_eq_false hne hroot.2 hitems.1 hitems.2 hwalk,
    isAssignable_eq_false hne.symm hroot.1 hitems.2 hitems.1 hback, Bool.or_false]

end ClassPath

namespace CyclicRow

/-- An interface. -/
def named : ClassType := .interface ⟨"com.example.Named"⟩

/-- A class that extends its own subclass. -/
def panel : ClassType :=
  { ClassType.plain ⟨"com.example.Panel"⟩ with parent? := some ⟨"com.example.Row"⟩ }

/-- Its subclass, which implements the interface. -/
def row : ClassType :=
  { ClassType.plain ⟨"com.example.Row"⟩ with
    parent? := some panel.name, interfaces := [named.name] }

/-- The classes, with the root of all. -/
def classPath : ClassPath := ClassPath.empty.insertAll [.plain .object, named, panel, row]

/-- A type of arrays with two dimensions. -/
def grid (c : ClassType) : TypeName := ⟨c.name.text ++ "[][]"⟩

/-- A type of arrays. -/
def line (c : ClassType) : TypeName := ⟨c.name.text ++ "[]"⟩

/-- Arrays of arrays convert like their items. -/
theorem isAssignable_grid {c d : ClassType} (hc : c ∈ [named, panel, row])
    (hd : d ∈ [named, panel, row]) (h : classPath.Extends c.name d.name) :
    classPath.isAssignable (grid c) (grid d) = true := by
  have harrays : ∀ e ∈ [named, panel, row], (grid e).component? = some (line e)
      ∧ (line e).isReference = true ∧ (line e).component? = some e.name
      ∧ e.name.isReference = true ∧ e.name.component? = none ∧ e.name.isPrimitive = false := by
    decide
  obtain ⟨hgridc, hrefc, hlinec, hitemc, hsinglec, hprimc⟩ := harrays c hc
  obtain ⟨hgridd, hrefd, hlined, hitemd, hsingled, hprimd⟩ := harrays d hd
  refine ClassPath.isAssignable_iff.mpr (.items hgridc hgridd hrefc hrefd ?_)
  refine .items hlinec hlined hitemc hitemd ?_
  exact .inherited hsinglec hsingled hprimc hprimd (.inr (.single h))

/-- Conversions go round a cycle and out of it. -/
theorem isAssignable_preorder_grid :
    classPath.ObjectIsRoot
      ∧ classPath.isAssignable (grid panel) (grid row) = true
      ∧ classPath.isAssignable (grid row) (grid named) = true
      ∧ classPath.isAssignable (grid panel) (grid named) = true
      ∧ classPath.isAssignable (grid panel) (grid panel) = true
      ∧ classPath.isAssignable .int (line named) = false := by
  have hroot : classPath.ObjectIsRoot := ClassPath.objectIsRoot_of_plain (by decide)
  obtain ⟨hself, htrans, hprimitive⟩ := ClassPath.isAssignable_preorder hroot
  have hup : classPath.isAssignable (grid panel) (grid row) = true :=
    isAssignable_grid (by simp) (by simp) ⟨panel, by decide, by decide⟩
  have hout : classPath.isAssignable (grid row) (grid named) = true :=
    isAssignable_grid (by simp) (by simp) ⟨row, by decide, by decide⟩
  refine ⟨hroot, hup, hout, htrans _ _ _ hup hout, hself _, ?_⟩
  rw [Bool.eq_false_iff, ne_eq, hprimitive _ _ (.inl (by decide))]
  decide

end CyclicRow

end BindingCompiler
