import BindingCompiler.Marker.Validation

/-!
# `BindingCompiler.Proofs.Marker.Validity`: the markers that are valid

`Registry.validate` checks a marker in a fixed order. `Registry.Valid`
states by three rules, one for each family, which markers pass and what
each of them stands for; `validate_eq_ok_iff` says that the rules and
the checks agree. Later proofs use the rules and do not open the checks.
-/

set_option autoImplicit false

namespace BindingCompiler.Registry

variable {r : Registry} {kind : Kind}

/-! ### Queries by descriptor -/

/-- The family of a kind is that of its descriptor. -/
theorem family_eq_ok_iff {family : Family} :
    r.family kind = .ok family ↔ ∃ d, r.descriptor? kind = some d ∧ d.family = family := by
  unfold Registry.family descriptor
  cases r.descriptor? kind <;> simp [Except.map]

/-- A resource kind answers with the variants of its descriptor. -/
theorem variants_eq_ok_iff {variants : List ResourceSpec} :
    r.variants kind = .ok variants ↔ r.descriptor? kind = some (.resource variants) := by
  unfold Registry.variants descriptor
  cases r.descriptor? kind with
  | none => simp
  | some d => cases d <;> simp

/-- A listener kind answers with the resolved listener of its descriptor. -/
theorem listener_eq_ok_iff {resolved : ResolvedListener} :
    r.listener kind = .ok resolved ↔ r.descriptor? kind = some (.listener resolved) := by
  unfold Registry.listener descriptor
  cases r.descriptor? kind with
  | none => simp
  | some d => cases d <;> simp

/-! ### The rules -/

/-- A marker may be placed where it is: it has ids and all of them can
name a resource, the member is of the shape that the family is for, a
field gets one id only, and the member is not private. -/
structure WellPlaced (family : Family) (member : Member) (marker : Marker) : Prop where
  has_ids : marker.ids ≠ []
  ids_wellFormed : ∀ id ∈ marker.ids, id.isWellFormed = true
  on_target : family.targetsFields = member.isField
  one_id : family.targetsFields = true → marker.ids.length ≤ 1
  accessible : member.visibility ≠ .ownClass

/-- The placement of a marker is checked by asking for nothing but these conditions. -/
theorem placementError?_eq_none_iff {family : Family} {member : Member} {marker : Marker} :
    placementError? family member marker = none ↔ WellPlaced family member marker := by
  have hwell : (marker.ids.find? fun id => !id.isWellFormed) = none
      ↔ ∀ id ∈ marker.ids, id.isWellFormed = true := by
    simp [List.find?_eq_none]
  unfold placementError?
  constructor
  · intro h
    split at h
    · exact absurd h (by simp)
    · rename_i hids
      split at h
      · exact absurd h (by simp)
      · rename_i hfind
        split at h
        · exact absurd h (by simp)
        · rename_i htarget
          split at h
          · exact absurd h (by simp)
          · rename_i hone
            split at h
            · exact absurd h (by simp)
            · rename_i hprivate
              -- All five checks are passed, in the order of the conditions.
              refine ⟨by simpa using hids, hwell.mp hfind, by simpa using htarget, ?_, hprivate⟩
              intro hfield
              simp only [hfield, Bool.true_and, decide_eq_true_eq] at hone
              omega
  · intro h
    have hone : (family.targetsFields && decide (1 < marker.ids.length)) = false := by
      cases hfield : family.targetsFields with
      | false => rfl
      | true => simpa using h.one_id hfield
    have hids : marker.ids.isEmpty = false := by simpa using h.has_ids
    rw [h.on_target] at hone
    simp only [hids, hwell.mpr h.ids_wellFormed, hone, h.on_target, h.accessible,
      Bool.false_eq_true, if_false, bne_self_eq_false]

/-- What a valid marker stands for, by the family of its kind. -/
inductive Valid (r : Registry) : Member → Marker → Binding → Prop
  /-- A view kind, on a field that can hold a view. -/
  | view {field : Field} {kind : Kind} {id : ResourceId} {isOptional : Bool}
      (registered : r.descriptor? kind = some .view)
      (placed : WellPlaced .view (.field field) ⟨kind, [id], isOptional⟩)
      (holds : r.classPath.canHoldView field.type = true) :
      Valid r (.field field) ⟨kind, [id], isOptional⟩ (.view kind field id isOptional)
  /-- A resource kind, on a field that one of its variants fits. -/
  | resource {field : Field} {kind : Kind} {id : ResourceId} {isOptional : Bool}
      {variants : List ResourceSpec} {spec : ResourceSpec}
      (registered : r.descriptor? kind = some (.resource variants))
      (placed : WellPlaced .resource (.field field) ⟨kind, [id], isOptional⟩)
      (fits : fittingVariant? r.classPath variants field.type = some spec) :
      Valid r (.field field) ⟨kind, [id], isOptional⟩ (.resource kind field id spec)
  /-- A listener kind, on a method whose arguments the callback provides. -/
  | listener {method : Method} {kind : Kind} {ids : List ResourceId} {isOptional : Bool}
      {resolved : ResolvedListener} {arguments : List Nat}
      (registered : r.descriptor? kind = some (.listener resolved))
      (placed : WellPlaced .listener (.method method) ⟨kind, ids, isOptional⟩)
      (returns : ClassPath.isSupportedReturn method.returns = true)
      (matched : r.classPath.matchArguments resolved.callback.parameters
        (List.range resolved.callback.parameters.length) method.parameters = .ok arguments) :
      Valid r (.method method) ⟨kind, ids, isOptional⟩
        (.listener kind method ids isOptional resolved arguments
          (.between resolved.callback.returns method.returns))

variable {member : Member} {marker : Marker} {b : Binding}

/-- A field marker has exactly one id. -/
theorem WellPlaced.exists_id {family : Family} (h : WellPlaced family member marker)
    (hfield : family.targetsFields = true) : ∃ id, marker = ⟨marker.kind, [id], marker.isOptional⟩ := by
  obtain ⟨kind, ids, isOptional⟩ := marker
  have hone := h.one_id hfield
  have hsome := h.has_ids
  match ids with
  | [] => exact absurd rfl hsome
  | [id] => exact ⟨id, rfl⟩
  | _ :: _ :: _ => simp at hone

/-! ### The check of each family -/

/-- A view marker passes on a field that can hold a view. -/
theorem validateView_eq_ok_iff {field : Field} :
    r.validateView field marker = .ok b
      ↔ r.classPath.canHoldView field.type = true
        ∧ b = .view marker.kind field (firstId marker) marker.isOptional := by
  unfold validateView
  split
  · rename_i hholds
    simp [hholds, eq_comm]
  · rename_i hholds
    simp [hholds]

/-- A resource marker passes on a field that one of the variants fits. -/
theorem validateResource_eq_ok_iff {field : Field} {variants : List ResourceSpec}
    (hvariants : r.descriptor? marker.kind = some (.resource variants)) :
    r.validateResource field marker = .ok b
      ↔ ∃ spec, fittingVariant? r.classPath variants field.type = some spec
        ∧ b = .resource marker.kind field (firstId marker) spec := by
  simp only [validateResource, variants_eq_ok_iff.mpr hvariants]
  split
  · rename_i spec hspec
    simp [hspec, eq_comm]
  · rename_i hnone
    simp [hnone]

/-- A listener marker passes on a method whose result is supported and
whose arguments the callback provides. -/
theorem validateListener_eq_ok_iff {method : Method} {resolved : ResolvedListener}
    (hlistener : r.descriptor? marker.kind = some (.listener resolved)) :
    r.validateListener method marker = .ok b
      ↔ ClassPath.isSupportedReturn method.returns = true
        ∧ ∃ arguments, r.classPath.matchArguments resolved.callback.parameters
            (List.range resolved.callback.parameters.length) method.parameters = .ok arguments
          ∧ b = .listener marker.kind method marker.ids marker.isOptional resolved arguments
            (.between resolved.callback.returns method.returns) := by
  simp only [validateListener, listener_eq_ok_iff.mpr hlistener]
  split
  · rename_i hreturns
    split
    · rename_i arguments hmatched
      simp [hreturns, hmatched, eq_comm]
    · rename_i argument hunmatched
      simp [hunmatched]
  · rename_i hreturns
    simp [hreturns]

/-- A marker that is placed on a field is left to the check of its family. -/
theorem validate_field {d : Descriptor} {field : Field}
    (hd : r.descriptor? marker.kind = some d) (hplaced : WellPlaced d.family (.field field) marker) :
    r.validate (.field field) marker
      = if d.family = .view then r.validateView field marker
        else r.validateResource field marker := by
  simp only [validate, family_eq_ok_iff.mpr ⟨d, hd, rfl⟩, placementError?_eq_none_iff.mpr hplaced]

/-- A marker that is placed on a method is left to the check of listeners. -/
theorem validate_method {d : Descriptor} {method : Method}
    (hd : r.descriptor? marker.kind = some d)
    (hplaced : WellPlaced d.family (.method method) marker) :
    r.validate (.method method) marker = r.validateListener method marker := by
  simp only [validate, family_eq_ok_iff.mpr ⟨d, hd, rfl⟩, placementError?_eq_none_iff.mpr hplaced]

/-- A marker that passes is of a registered kind, and in its place. -/
theorem exists_descriptor_of_validate (h : r.validate member marker = .ok b) :
    ∃ d, r.descriptor? marker.kind = some d ∧ WellPlaced d.family member marker := by
  unfold validate at h
  split at h
  · exact absurd h (by simp)
  · rename_i family hfamily
    obtain ⟨d, hd, rfl⟩ := family_eq_ok_iff.mp hfamily
    split at h
    · exact absurd h (by simp)
    · rename_i hplace
      exact ⟨d, hd, placementError?_eq_none_iff.mp hplace⟩

/-! ### All checks -/

/-- A marker that passes the checks is valid by the rules. -/
theorem valid_of_validate (h : r.validate member marker = .ok b) : r.Valid member marker b := by
  obtain ⟨d, hd, hplaced⟩ := exists_descriptor_of_validate h
  have htarget := hplaced.on_target
  -- The placement leaves fields to views and resources, and methods to listeners.
  cases member with
  | field field =>
      rw [validate_field hd hplaced] at h
      obtain ⟨id, hid⟩ := hplaced.exists_id htarget
      have hfirst : firstId marker = id := by
        rw [hid]
        rfl
      cases d with
      | view =>
          obtain ⟨hholds, rfl⟩ := validateView_eq_ok_iff.mp h
          rw [hfirst]
          rw [hid] at hplaced ⊢
          exact .view hd hplaced hholds
      | resource variants =>
          obtain ⟨spec, hfits, rfl⟩ := (validateResource_eq_ok_iff hd).mp h
          rw [hfirst]
          rw [hid] at hplaced ⊢
          exact .resource hd hplaced hfits
      | listener => exact absurd htarget Bool.false_ne_true
  | method method =>
      rw [validate_method hd hplaced] at h
      cases d with
      | view => exact absurd htarget.symm Bool.false_ne_true
      | resource => exact absurd htarget.symm Bool.false_ne_true
      | listener resolved =>
          obtain ⟨hreturns, arguments, hmatched, rfl⟩ := (validateListener_eq_ok_iff hd).mp h
          exact .listener hd hplaced hreturns hmatched

/-- A marker that is valid by the rules passes the checks. -/
theorem Valid.validate (h : r.Valid member marker b) : r.validate member marker = .ok b := by
  cases h with
  | view registered placed holds =>
      rw [validate_field (d := .view) (by exact registered) placed]
      exact validateView_eq_ok_iff.mpr ⟨holds, rfl⟩
  | @resource _ _ _ _ variants _ registered placed fits =>
      rw [validate_field (d := .resource variants) (by exact registered) placed]
      exact (validateResource_eq_ok_iff registered).mpr ⟨_, fits, rfl⟩
  | @listener _ _ _ _ resolved _ registered placed returns matched =>
      rw [validate_method (d := .listener resolved) (by exact registered) placed]
      exact (validateListener_eq_ok_iff registered).mpr ⟨returns, _, matched, rfl⟩

/-- A method without arguments and a result listens by any kind of listener. -/
theorem valid_of_no_parameters {kind : Kind} {resolved : ResolvedListener}
    (registered : r.descriptor? kind = some (.listener resolved)) (name : String)
    {ids : List ResourceId} (isOptional : Bool) (hsome : ids ≠ [])
    (hwell : ∀ id ∈ ids, id.isWellFormed = true) :
    r.Valid (.method { name, parameters := [], returns := .void }) ⟨kind, ids, isOptional⟩
      (.listener kind { name, parameters := [], returns := .void } ids isOptional resolved []
        (.between resolved.callback.returns .void)) := by
  have hplaced : WellPlaced .listener (.method { name, parameters := [], returns := .void })
      ⟨kind, ids, isOptional⟩ :=
    ⟨hsome, hwell, rfl, by simp [Family.targetsFields], by simp [Member.visibility]⟩
  have hreturns : ClassPath.isSupportedReturn .void = true := by decide
  exact .listener registered hplaced hreturns rfl

/-- A field that any view can be stored in is bound to one by any kind of view. -/
theorem valid_of_view {kind : Kind} (registered : r.descriptor? kind = some .view) (name : String)
    {id : ResourceId} (isOptional : Bool) (hwell : id.isWellFormed = true) :
    r.Valid (.field { name, type := .view }) ⟨kind, [id], isOptional⟩
      (.view kind { name, type := .view } id isOptional) := by
  have hplaced : WellPlaced .view (.field { name, type := .view }) ⟨kind, [id], isOptional⟩ :=
    ⟨by simp, by simpa using hwell, rfl, by simp, by simp [Member.visibility]⟩
  have hholds : r.classPath.canHoldView .view = true := by
    have harray : TypeName.view.isArray = false := by decide
    simp [ClassPath.canHoldView, harray, ClassPath.isSubclassOf]
  exact .view registered hplaced hholds

/-- The checks pass exactly the markers that are valid by the rules, with what they stand for. -/
theorem validate_eq_ok_iff : r.validate member marker = .ok b ↔ r.Valid member marker b :=
  ⟨valid_of_validate, Valid.validate⟩

/-- A marker that is not valid has a failure. -/
theorem failure?_eq_some_iff {e : BindingError} :
    r.failure? member marker = some e ↔ r.validate member marker = .error e := by
  unfold failure?
  split <;> simp_all

/-- A marker without a failure is valid. -/
theorem failure?_eq_none_iff :
    r.failure? member marker = none ↔ ∃ b, r.Valid member marker b := by
  unfold failure?
  split
  · rename_i b hb
    exact ⟨fun _ => ⟨b, valid_of_validate hb⟩, fun _ => rfl⟩
  · rename_i e he
    refine ⟨fun h => absurd h (by simp), ?_⟩
    rintro ⟨b, hb⟩
    rw [hb.validate] at he
    exact absurd he (by simp)

end BindingCompiler.Registry
