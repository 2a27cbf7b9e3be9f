import BindingCompiler.Source.BindingClass
import BindingCompiler.Proofs.ClassPath.Assignability
import BindingCompiler.Proofs.Marker.Validity
import BindingCompiler.Proofs.Registry.Registration

/-!
# `BindingCompiler.Proofs.Registry.ResourceSafety`: resources fit their fields

A resource kind promises a value type. When it is registered, the
accessor has to return what is assignable to that type; when a marker of
the kind is validated, the type has to be assignable to that of the
field. `exists_accessor_of_validate` joins the two: the accessor that
the binding calls returns what can be stored in the field, so that the
generated assignment needs no cast. The joint is
`ClassPath.isAssignable_trans`, hence the condition on
`java.lang.Object`.
-/

set_option autoImplicit false

namespace BindingCompiler

namespace ClassPath

variable {cp : ClassPath}

/-- The accessor of a name is a method of the resource table that takes an id. -/
theorem accessor?_spec {name : String} {m : Method} (h : cp.accessor? name = some m) :
    cp.HasMethod .resources m ∧ m.name = name ∧ m.parameters = [.int] := by
  obtain ⟨hhas, hname⟩ := hasMethod_of_mem_findMethods (List.mem_of_find?_eq_some h)
  exact ⟨hhas, hname, by simpa using List.find?_some h⟩

/-- A variant without a fault has an accessor that returns what it promises. -/
theorem exists_accessor_of_variantFault? {v : ResourceSpec} (h : cp.variantFault? v = none) :
    ∃ m, cp.accessor? v.accessor = some m ∧ cp.isAssignable m.returns v.valueType = true := by
  simp only [variantFault?] at h
  split at h
  · exact absurd h (by simp)
  · split at h
    · exact absurd h (by simp)
    · split at h
      · exact absurd h (by simp)
      · split at h
        · exact absurd h (by simp)
        · rename_i m hm
          split at h
          · rename_i hassignable
            exact ⟨m, hm, hassignable⟩
          · exact absurd h (by simp)

end ClassPath

namespace Registry

/-- The variant that fits a field is one of the variants, and its value can be stored in the field. -/
theorem fittingVariant?_spec {cp : ClassPath} {variants : List ResourceSpec} {type : TypeName}
    {spec : ResourceSpec} (h : fittingVariant? cp variants type = some spec) :
    spec ∈ variants ∧ cp.isAssignable spec.valueType type = true := by
  unfold fittingVariant? at h
  split at h
  · rename_i v hv
    cases h
    refine ⟨List.mem_of_find?_eq_some hv, ?_⟩
    have hsame := List.find?_some hv
    rw [beq_iff_eq.mp hsame]
    exact ClassPath.isAssignable_self cp type
  · refine ⟨List.mem_of_find?_eq_some h, ?_⟩
    have hfits := List.find?_some h
    exact hfits

/-- Without a variant that fits, no variant has a value that can be stored in the field. -/
theorem not_isAssignable_of_fittingVariant? {cp : ClassPath} {variants : List ResourceSpec}
    {type : TypeName} (h : fittingVariant? cp variants type = none) {v : ResourceSpec}
    (hv : v ∈ variants) : cp.isAssignable v.valueType type ≠ true := by
  unfold fittingVariant? at h
  split at h
  · exact absurd h (by simp)
  · exact List.find?_eq_none.mp h v hv

end Registry

/-- After any run of registrations over a class path in which
`java.lang.Object` is the root, a field marker that is resolved to a
resource calls an accessor that the resource table has, with one integer
parameter. What it returns can be stored in the field, and the generated
line stores it there without a cast. -/
theorem exists_accessor_of_validate {cp : ClassPath} (hroot : cp.ObjectIsRoot)
    (run : List Registration) {field bound : Field} {marker : Marker} {kind : Kind}
    {id : ResourceId} {spec : ResourceSpec}
    (h : ((Registry.ofClassPath cp).registerAll run).validate (.field field) marker
      = .ok (.resource kind bound id spec)) :
    bound = field ∧ ∃ m, cp.HasMethod .resources m ∧ m.name = spec.accessor
      ∧ m.parameters = [.int] ∧ cp.isAssignable m.returns field.type = true
      ∧ (Source.assignField (.resource bound id spec)).layout
        = [.line ("target." ++ field.name ++ " = "
            ++ ("resources." ++ m.name ++ "(" ++ id.literal ++ ")") ++ ";")] := by
  cases Registry.valid_of_validate h with
  | resource registered placed fits =>
      -- The value type stands between the two checks, which were made at different times
      -- over the same class path.
      obtain ⟨hmem, hfield⟩ := Registry.fittingVariant?_spec fits
      rw [Registry.classPath_registerAll] at hfield
      have haccepts := Registry.accepts_of_registerAll registered
      obtain ⟨m, hm, hvalue⟩ := ClassPath.exists_accessor_of_variantFault? (haccepts.variant hmem)
      obtain ⟨hhas, hname, hparameters⟩ := ClassPath.accessor?_spec hm
      refine ⟨rfl, m, hhas, hname, hparameters, ClassPath.isAssignable_trans hroot hvalue hfield, ?_⟩
      rw [hname]
      rfl

/-! ### A text in a field of characters -/

namespace TextResource

/-- The accessor of texts. -/
def getString : Method := { name := "getString", parameters := [.int], returns := .string }

/-- The resource table with that accessor. -/
def table : ClassType := { ClassType.plain .resources with methods := [getString] }

/-- A text is a sequence of characters. -/
def string : ClassType := { ClassType.plain .string with interfaces := [.charSequence] }

/-- The resource table, and the types around the result of its accessor. -/
def classPath : ClassPath :=
  ClassPath.empty.insertAll [.plain .object, .interface .charSequence, string, table]

/-- What the accessor of texts yields. -/
def variant : ResourceSpec := ⟨.string, "getString"⟩

/-- The kind of texts. -/
def kind : Kind := ⟨"BindString"⟩

/-- A registration that is refused, and that of the kind. -/
def run : List Registration := [.resource ⟨"BindNothing"⟩ [], .resource kind [variant]]

/-- A field that takes any sequence of characters. -/
def label : Field := { name := "label", type := .charSequence }

/-- A marker of the kind. -/
def marker : Marker := ⟨kind, [⟨7⟩], false⟩

/-- The accessor is found. -/
theorem accessor?_getString : classPath.accessor? variant.accessor = some getString := by
  have hwalk : classPath.hierarchy .resources = [table, .plain .object] :=
    ClassPath.explore_of_within 3 (by decide)
  rw [ClassPath.accessor?, ClassPath.findMethods, hwalk]
  decide

/-- The check accepts the variant. -/
theorem variantFault?_variant : classPath.variantFault? variant = none := by
  have hfits : classPath.isAssignable getString.returns variant.valueType = true :=
    ClassPath.isAssignable_self classPath .string
  simp only [ClassPath.variantFault?, accessor?_getString, hfits]
  decide

/-- Of the run, the second registration is successful. -/
theorem registerAll_run :
    (Registry.ofClassPath classPath).registerAll run
      = (Registry.ofClassPath classPath).enter kind (.resource [variant]) := by
  have hgood : classPath.variantsFault? [variant] = none := by
    simp [ClassPath.variantsFault?, variantFault?_variant]
  have hbad : classPath.variantsFault? [] = some .noVariants := rfl
  simp [Registry.registerAll, run, Registry.attempt, Registry.register, Registry.registerResource,
    Registry.ofClassPath, hgood, hbad]

/-- A field of characters takes texts. -/
theorem isAssignable_string : classPath.isAssignable .string .charSequence = true := by
  have hextends : classPath.Extends .string .charSequence :=
    ⟨string, by decide, by decide⟩
  exact ClassPath.isAssignable_iff.mpr
    (.inherited (by decide) (by decide) (by decide) (by decide)
      (.inr (.single hextends)))

/-- The marker resolves on the field. -/
theorem validate_label :
    ((Registry.ofClassPath classPath).registerAll run).validate (.field label) marker
      = .ok (.resource kind label ⟨7⟩ variant) := by
  rw [registerAll_run]
  have hregistered : ((Registry.ofClassPath classPath).enter kind (.resource [variant])).descriptor?
      kind = some (.resource [variant]) := by
    rw [Registry.descriptor?_enter, if_pos rfl]
  have hother : (variant.valueType == label.type) = false := by decide
  have hfits : Registry.fittingVariant? classPath [variant] label.type = some variant := by
    simp only [Registry.fittingVariant?, List.find?_cons, hother, List.find?_nil]
    rw [show classPath.isAssignable variant.valueType label.type = true from isAssignable_string]
  exact Registry.Valid.validate
    (.resource hregistered (Registry.placementError?_eq_none_iff.mp (by decide)) hfits)

/-- A text from the resource table is stored in the field as it is. -/
theorem exists_accessor_of_validate_label :
    classPath.ObjectIsRoot
      ∧ ((Registry.ofClassPath classPath).registerAll run).validate (.field label) marker
        = .ok (.resource kind label ⟨7⟩ variant)
      ∧ ∃ m, classPath.HasMethod .resources m ∧ m.name = "getString" ∧ m.parameters = [.int]
        ∧ classPath.isAssignable m.returns label.type = true := by
  have hroot : classPath.ObjectIsRoot := ClassPath.objectIsRoot_of_plain (by decide)
  obtain ⟨-, m, hhas, hname, hparameters, hfits, -⟩ :=
    exists_accessor_of_validate hroot run validate_label
  exact ⟨hroot, validate_label, m, hhas, hname, hparameters, hfits⟩

end TextResource

end BindingCompiler
