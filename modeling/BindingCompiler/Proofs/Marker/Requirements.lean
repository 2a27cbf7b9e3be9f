import BindingCompiler.Proofs.Marker.Turns
import BindingCompiler.Proofs.Marker.Validity
import BindingCompiler.Proofs.Registry.Registration
import BindingCompiler.Proofs.Registry.ResourceSafety

/-!
# `BindingCompiler.Proofs.Marker.Requirements`: what a marker has to meet

The rules for a marker are a list of requirements, each a condition with
the error for a marker that does not meet it (`Registry.requirements`).
There is one for the kind, one for the presence of ids and one for each
id, three for the place, and then those of the family: what the field
can hold, or the result of the method and each of its arguments.

`Registry.validate` is compared with this list. A marker is valid exactly
if it meets all requirements, and otherwise the error is the one of the
first that it does not meet (`validate_by_requirements`). All errors name
the kind of the marker.
-/

set_option autoImplicit false

namespace BindingCompiler

/-- A condition, and the error where it does not hold. -/
structure Requirement where
  holds : Prop
  error : BindingError

namespace Requirement

/-- The error is the one of the first requirement that does not hold. -/
def FirstUnmet (requirements : List Requirement) (e : BindingError) : Prop :=
  ∃ before q after, requirements = before ++ q :: after ∧ (∀ p ∈ before, p.holds)
    ∧ ¬ q.holds ∧ q.error = e

/-- What a check of requirements reports: nothing if all hold, and else
the error of the first that does not. -/
def Reports (requirements : List Requirement) : Option BindingError → Prop
  | none => ∀ q ∈ requirements, q.holds
  | some e => FirstUnmet requirements e

variable {q : Requirement} {first rest requirements : List Requirement} {e e' : BindingError}
  {report : Option BindingError}

/-! ### Requirements one after the other -/

/-- Nothing is asked, and nothing reported. -/
theorem Reports.nil : Reports [] none := by simp [Reports]

/-- The first of all does not hold. -/
theorem FirstUnmet.head (h : ¬ q.holds) : FirstUnmet (q :: rest) q.error :=
  ⟨[], q, rest, rfl, by simp, h, rfl⟩

/-- Once a requirement does not hold, those after it do not matter. -/
theorem FirstUnmet.append (h : FirstUnmet first e) (rest : List Requirement) :
    FirstUnmet (first ++ rest) e := by
  obtain ⟨before, q, after, rfl, hbefore, hq, he⟩ := h
  exact ⟨before, q, after ++ rest, by simp, hbefore, hq, he⟩

/-- After requirements that hold, the report is about the others. -/
theorem Reports.append (hfirst : ∀ p ∈ first, p.holds) (h : Reports rest report) :
    Reports (first ++ rest) report := by
  cases report with
  | none =>
      intro p hp
      rcases List.mem_append.mp hp with hp | hp
      · exact hfirst p hp
      · exact h p hp
  | some e =>
      obtain ⟨before, q, after, rfl, hbefore, hq, he⟩ := h
      refine ⟨first ++ before, q, after, by rw [List.append_assoc], fun p hp => ?_, hq, he⟩
      rcases List.mem_append.mp hp with hp | hp
      · exact hfirst p hp
      · exact hbefore p hp

/-- One check before the checks of the others. -/
theorem Reports.check {condition : Prop} [Decidable condition]
    (hcondition : condition ↔ ¬ q.holds) (h : q.holds → Reports rest report) :
    Reports (q :: rest) (if condition then some q.error else report) := by
  by_cases hq : q.holds
  · have hsingle : ∀ p ∈ [q], p.holds := by simpa using hq
    rw [if_neg fun hc => hcondition.mp hc hq]
    exact Reports.append hsingle (h hq)
  · rw [if_pos (hcondition.mpr hq)]
    exact FirstUnmet.head hq

/-- What a search for a requirement that does not hold finds is the first one. -/
theorem firstUnmet_of_find? {β : Type} {f : β → Requirement} {unmet : β → Bool} {l : List β} {b : β}
    (hunmet : ∀ a, unmet a = true ↔ ¬ (f a).holds) (h : l.find? unmet = some b) :
    FirstUnmet (l.map f) (f b).error := by
  obtain ⟨hb, before, after, rfl, hbefore⟩ := List.find?_eq_some_iff_append.mp h
  refine ⟨before.map f, f b, after.map f, by simp, ?_, (hunmet b).mp hb, rfl⟩
  rw [List.forall_mem_map]
  intro a ha
  by_contra hholds
  have hmet := hbefore a ha
  rw [(hunmet a).mpr hholds] at hmet
  exact absurd hmet (by decide)

/-! ### What is reported -/

/-- Where a requirement does not hold, not all hold. -/
theorem FirstUnmet.not_forall (h : FirstUnmet requirements e) :
    ¬ ∀ q ∈ requirements, q.holds := by
  obtain ⟨before, q, after, rfl, -, hq, -⟩ := h
  exact fun hall => hq (hall q (by simp))

/-- There is one first requirement that does not hold, at most. -/
theorem FirstUnmet.unique (h : FirstUnmet requirements e) (h' : FirstUnmet requirements e') :
    e = e' := by
  obtain ⟨before, q, after, rfl, hbefore, hq, rfl⟩ := h
  obtain ⟨before', q', after', hsplit, hbefore', hq', rfl⟩ := h'
  -- Neither of the two stands in what comes before the other.
  rcases List.append_eq_append_iff.mp hsplit with ⟨more, rfl, hmore⟩ | ⟨more, rfl, hmore⟩
  · cases more with
    | nil => rw [(List.cons.inj hmore).1]
    | cons p more =>
        obtain ⟨rfl, -⟩ := List.cons.inj hmore
        exact absurd (hbefore' q (by simp)) hq
  · cases more with
    | nil => rw [(List.cons.inj hmore).1]
    | cons p more =>
        obtain ⟨rfl, -⟩ := List.cons.inj hmore
        exact absurd (hbefore q' (by simp)) hq'

/-- Nothing is reported exactly if all requirements hold. -/
theorem Reports.eq_none_iff (h : Reports requirements report) :
    report = none ↔ ∀ q ∈ requirements, q.holds := by
  cases report with
  | none => exact ⟨fun _ => h, fun _ => rfl⟩
  | some e => exact ⟨fun hnone => absurd hnone (by simp), fun hall => absurd hall h.not_forall⟩

/-- An error is reported exactly if it is the one of the first requirement that does not hold. -/
theorem Reports.eq_some_iff (h : Reports requirements report) :
    report = some e ↔ FirstUnmet requirements e := by
  cases report with
  | none => exact ⟨fun hsome => absurd hsome (by simp), fun hunmet => absurd h hunmet.not_forall⟩
  | some e' =>
      constructor
      · intro he
        cases he
        exact h
      · intro hunmet
        rw [FirstUnmet.unique h hunmet]

end Requirement

/-! ### The kind that an error is about -/

/-- The kind of a registry's error. -/
def RegistryError.kind : RegistryError → Kind
  | .unknownKind kind | .wrongFamily kind _ _ | .malformed kind _ => kind

/-- The kind of a marker's error. -/
def MarkerError.kind : MarkerError → Kind
  | .noIds kind _ | .malformedId kind _ _ | .wrongTarget kind _ _ | .tooManyIds kind _ _
  | .inaccessible kind _ | .unfitField kind _ _ | .unsupportedReturn kind _
  | .unmatchedArgument kind _ _ _ | .duplicate kind _ | .overloaded kind _ => kind

/-- The kind that an error is about. -/
def BindingError.kind : BindingError → Kind
  | .registry e => e.kind
  | .marker e => e.kind

/-- The words of a marker's error start with its kind. -/
theorem MarkerError.message_eq (e : MarkerError) :
    ∃ rest, e.message = "@" ++ e.kind.name ++ rest := by
  cases e <;> exact ⟨_, by simp only [message, kind, toString, String.append_assoc]; rfl⟩

/-- The words of an error contain the name of its kind. -/
theorem BindingError.exists_message_eq (e : BindingError) :
    ∃ before after, e.message = before ++ e.kind.name ++ after := by
  cases e with
  | marker e =>
      obtain ⟨rest, hrest⟩ := e.message_eq
      exact ⟨"@", rest, hrest⟩
  | registry e =>
      cases e with
      | unknownKind kind => exact ⟨"unknown binding kind '", "'", rfl⟩
      | wrongFamily kind expected actual =>
          refine ⟨"binding kind '",
            "' is a " ++ actual.word ++ " binding, not a " ++ expected.word ++ " binding", ?_⟩
          unfold message RegistryError.message
          simp only [toString, ← String.append_assoc]
          rfl
      | malformed kind fault =>
          exact ⟨"malformed spec for '", "': " ++ fault.message, String.append_assoc⟩

namespace Registry

open Requirement

/-! ### The requirements -/

/-- What is asked of the ids and the place of a marker. -/
def placementRequirements (family : Family) (member : Member) (marker : Marker) :
    List Requirement :=
  let kind := marker.kind
  ⟨marker.ids ≠ [], .marker (.noIds kind member)⟩
    :: ((marker.ids.map fun id => ⟨id ≠ .null ∧ id ≠ .noId, .marker (.malformedId kind member id)⟩)
      ++ [⟨family.targetsFields = member.isField, .marker (.wrongTarget kind family member)⟩,
        ⟨member.isField = true → marker.ids.length = 1,
          .marker (.tooManyIds kind member marker.ids.length)⟩,
        ⟨member.visibility ≠ .ownClass, .marker (.inaccessible kind member)⟩])

/-- What a kind asks of the type of a field, or of the result and the
arguments of a method. A member that is not for the family of the kind
is asked nothing, for it is not in its place. -/
def fitRequirements (cp : ClassPath) (kind : Kind) : Descriptor → Member → List Requirement
  | .view, .field f =>
    [⟨f.type.isArray = false ∧ (cp.isInterface f.type = true ∨ cp.isSubclassOf f.type .view = true),
      .marker (.unfitField kind f .views)⟩]
  | .resource variants, .field f =>
    [⟨∃ v ∈ variants, cp.isAssignable v.valueType f.type = true,
      .marker (.unfitField kind f (.values (variants.map ResourceSpec.valueType)))⟩]
  | .listener l, .method m =>
    ⟨m.returns = .void ∨ m.returns = .boolean, .marker (.unsupportedReturn kind m)⟩
      :: m.parameters.mapIdx fun k argument =>
        ⟨cp.Finds l.callback.parameters (m.parameters.take k) argument,
          .marker (.unmatchedArgument kind m argument l.callback)⟩
  | _, _ => []

/-- What is asked of a marker on a member, in this order. -/
def requirements (r : Registry) (member : Member) (marker : Marker) : List Requirement :=
  ⟨r.contains marker.kind = true, .registry (.unknownKind marker.kind)⟩
    :: match r.descriptor? marker.kind with
      | none => []
      | some d =>
        placementRequirements d.family member marker
          ++ fitRequirements r.classPath marker.kind d member

variable {r : Registry} {d : Descriptor} {family : Family} {member : Member} {marker : Marker}
  {kind : Kind} {q : Requirement} {e : BindingError}

/-- Every requirement is about the marker's kind. -/
theorem kind_of_mem_requirements (h : q ∈ r.requirements member marker) :
    q.error.kind = marker.kind := by
  rcases List.mem_cons.mp h with rfl | h
  · rfl
  cases hd : r.descriptor? marker.kind with
  | none => simp [hd] at h
  | some d =>
      simp only [hd, List.mem_append] at h
      rcases h with h | h
      · simp only [placementRequirements, List.mem_cons, List.mem_append, List.mem_map,
          List.not_mem_nil, or_false] at h
        obtain rfl | ⟨id, -, rfl⟩ | rfl | rfl | rfl := h <;> rfl
      · -- One case for each family on its member; on the other member nothing is asked.
        unfold fitRequirements at h
        split at h
        · rw [List.mem_singleton.mp h]
          rfl
        · rw [List.mem_singleton.mp h]
          rfl
        · rcases List.mem_cons.mp h with rfl | h
          · rfl
          · obtain ⟨k, hk, rfl⟩ := List.mem_mapIdx.mp h
            rfl
        · exact absurd h (by simp)

/-! ### The place -/

/-- An id is refused if it is one of the two that name nothing. -/
theorem not_isWellFormed_iff (id : ResourceId) :
    (!id.isWellFormed) = true ↔ ¬ (id ≠ .null ∧ id ≠ .noId) := by
  simp [ResourceId.isWellFormed, or_iff_not_imp_left]

/-- The check of the place finds the first requirement on it that does not hold. -/
theorem reports_placementError? (family : Family) (member : Member) (marker : Marker) :
    Reports (placementRequirements family member marker)
      ((placementError? family member marker).map .marker) := by
  unfold placementError? placementRequirements
  simp only [apply_ite (Option.map BindingError.marker), Option.map_some]
  refine .check (by simp) fun hids => ?_
  cases hfind : marker.ids.find? fun id => !id.isWellFormed with
  | some id => exact (firstUnmet_of_find? not_isWellFormed_iff hfind).append _
  | none =>
      have hwell : ∀ id ∈ marker.ids, id ≠ .null ∧ id ≠ .noId := fun id hid =>
        by_contra fun hnot =>
          List.find?_eq_none.mp hfind id hid ((not_isWellFormed_iff id).mpr hnot)
      refine .append (List.forall_mem_map.mpr hwell) ?_
      simp only [apply_ite (Option.map BindingError.marker), Option.map_some]
      refine .check (by simp) fun htarget => ?_
      have hone : (family.targetsFields && decide (1 < marker.ids.length)) = true
          ↔ ¬ (member.isField = true → marker.ids.length = 1) := by
        have hlength := List.length_pos_iff.mpr hids
        rw [htarget]
        cases member.isField <;> simp
        omega
      exact .check hone fun _ => .check (by simp) fun _ => .nil

/-! ### The family -/

/-- The search for the parameters of the arguments finds the first argument that finds none. -/
theorem reports_matchArguments (cp : ClassPath) (parameters arguments : List TypeName)
    (error : TypeName → BindingError) :
    Reports (arguments.mapIdx fun k argument =>
        ⟨cp.Finds parameters (arguments.take k) argument, error argument⟩)
      (match cp.matchArguments parameters (List.range parameters.length) arguments with
        | .ok _ => none
        | .error unmatched => some (error unmatched)) := by
  have hspec := cp.matchArguments_inTurn parameters arguments
  cases hmatch : cp.matchArguments parameters (List.range parameters.length) arguments with
  | ok chosen =>
      rw [hmatch] at hspec
      intro q hq
      obtain ⟨k, hk, rfl⟩ := List.mem_mapIdx.mp hq
      exact hspec.finds_getElem hk
  | error unmatched =>
      rw [hmatch] at hspec
      obtain ⟨before, after, rfl, taken, hturn, hnone⟩ := hspec
      -- The list is split where the argument stands: those before it have been served.
      refine ⟨_, _, _, by rw [List.mapIdx_append, List.mapIdx_cons], ?_, ?_, rfl⟩
      · intro q hq
        obtain ⟨k, hk, rfl⟩ := List.mem_mapIdx.mp hq
        show cp.Finds parameters ((before ++ unmatched :: after).take k) before[k]
        rw [List.take_append_of_le_length (Nat.le_of_lt hk)]
        exact hturn.finds_getElem hk
      · have hbefore : (before ++ unmatched :: after).take (0 + before.length) = before := by
          rw [Nat.zero_add, List.take_left]
        show ¬ cp.Finds parameters ((before ++ unmatched :: after).take _) unmatched
        rw [hbefore]
        exact hturn.not_finds hnone

/-- The check of a view marker finds whether the field can hold a view. -/
theorem reports_view {f : Field} (hd : r.descriptor? marker.kind = some .view)
    (hplaced : WellPlaced .view (.field f) marker) :
    Reports (fitRequirements r.classPath marker.kind .view (.field f))
      (r.failure? (.field f) marker) := by
  have hfailure : r.failure? (.field f) marker
      = if r.classPath.canHoldView f.type = false
        then some (.marker (.unfitField marker.kind f .views)) else none := by
    have hview : Descriptor.view.family = .view := rfl
    rw [failure?, validate_field (d := .view) hd hplaced, if_pos hview, validateView]
    cases r.classPath.canHoldView f.type <;> rfl
  have hholds : r.classPath.canHoldView f.type = false
      ↔ ¬ (f.type.isArray = false ∧ (r.classPath.isInterface f.type = true
        ∨ r.classPath.isSubclassOf f.type .view = true)) := by
    rw [ClassPath.canHoldView, ← Bool.not_eq_true]
    simp only [Bool.and_eq_true, Bool.or_eq_true, Bool.not_eq_true']
  rw [hfailure]
  exact .check hholds fun _ => .nil

/-- The check of a resource marker finds whether a variant fits. -/
theorem reports_resource {f : Field} {variants : List ResourceSpec}
    (hd : r.descriptor? marker.kind = some (.resource variants))
    (hplaced : WellPlaced .resource (.field f) marker) :
    Reports (fitRequirements r.classPath marker.kind (.resource variants) (.field f))
      (r.failure? (.field f) marker) := by
  have hview : (Descriptor.resource variants).family ≠ .view := by simp [Descriptor.family]
  rw [failure?, validate_field (d := .resource variants) hd hplaced, if_neg hview,
    validateResource, variants_eq_ok_iff.mpr hd]
  cases hfits : fittingVariant? r.classPath variants f.type with
  | some v =>
      have hvariant : ∃ v ∈ variants, r.classPath.isAssignable v.valueType f.type = true :=
        ⟨v, fittingVariant?_spec hfits⟩
      simpa [hfits, Reports, fitRequirements] using hvariant
  | none =>
      have hnone : ¬ ∃ v ∈ variants, r.classPath.isAssignable v.valueType f.type = true := by
        rintro ⟨v, hv, hassignable⟩
        exact not_isAssignable_of_fittingVariant? hfits hv hassignable
      simp only [hfits]
      exact FirstUnmet.head hnone

/-- The check of a listener marker finds whether the result is supported
and every argument finds a parameter. -/
theorem reports_listener {m : Method} {l : ResolvedListener}
    (hd : r.descriptor? marker.kind = some (.listener l))
    (hplaced : WellPlaced .listener (.method m) marker) :
    Reports (fitRequirements r.classPath marker.kind (.listener l) (.method m))
      (r.failure? (.method m) marker) := by
  have hfailure : r.failure? (.method m) marker
      = if ClassPath.isSupportedReturn m.returns = false
        then some (.marker (.unsupportedReturn marker.kind m))
        else match r.classPath.matchArguments l.callback.parameters
            (List.range l.callback.parameters.length) m.parameters with
          | .ok _ => none
          | .error unmatched =>
            some (.marker (.unmatchedArgument marker.kind m unmatched l.callback)) := by
    rw [failure?, validate_method (d := .listener l) hd hplaced, validateListener,
      listener_eq_ok_iff.mpr hd]
    cases ClassPath.isSupportedReturn m.returns
    · rfl
    · cases hmatch : r.classPath.matchArguments l.callback.parameters
        (List.range l.callback.parameters.length) m.parameters <;> simp [hmatch]
  have hreturns : ClassPath.isSupportedReturn m.returns = false
      ↔ ¬ (m.returns = .void ∨ m.returns = .boolean) := by
    rw [← Bool.not_eq_true, ClassPath.isSupportedReturn_iff]
  rw [hfailure]
  refine .check hreturns fun _ => ?_
  exact reports_matchArguments r.classPath l.callback.parameters m.parameters
    fun unmatched => .marker (.unmatchedArgument marker.kind m unmatched l.callback)

/-- The check of the family finds the first requirement of the kind that does not hold. -/
theorem reports_fit (hd : r.descriptor? marker.kind = some d)
    (hplaced : WellPlaced d.family member marker) :
    Reports (fitRequirements r.classPath marker.kind d member) (r.failure? member marker) := by
  have htarget := hplaced.on_target
  -- The place leaves fields to views and resources, and methods to listeners.
  cases member with
  | field f =>
      cases d with
      | view => exact reports_view hd hplaced
      | resource variants => exact reports_resource hd hplaced
      | listener l => exact absurd htarget Bool.false_ne_true
  | method m =>
      cases d with
      | view => exact absurd htarget.symm Bool.false_ne_true
      | resource variants => exact absurd htarget.symm Bool.false_ne_true
      | listener l => exact reports_listener hd hplaced

/-! ### All requirements -/

/-- The failure of a marker is the first requirement that does not hold. -/
theorem reports_failure? (r : Registry) (member : Member) (marker : Marker) :
    Reports (r.requirements member marker) (r.failure? member marker) := by
  unfold requirements
  cases hd : r.descriptor? marker.kind with
  | none =>
      have hunknown : r.failure? member marker = some (.registry (.unknownKind marker.kind)) := by
        simp [failure?, validate, Registry.family, descriptor, hd, Except.map]
      rw [hunknown]
      exact FirstUnmet.head (by simp [contains, hd])
  | some d =>
      have hcontains : ∀ p ∈ [(⟨r.contains marker.kind = true,
          .registry (.unknownKind marker.kind)⟩ : Requirement)], p.holds := by
        simp [contains, hd]
      refine Reports.append hcontains ?_
      have hplace := reports_placementError? d.family member marker
      cases herror : placementError? d.family member marker with
      | none =>
          -- Only a marker in its place is checked against its family.
          rw [herror] at hplace
          exact .append hplace (reports_fit hd (placementError?_eq_none_iff.mp herror))
      | some e =>
          have hfailure : r.failure? member marker = some (.marker e) := by
            rw [failure?_eq_some_iff, validate, family_eq_ok_iff.mpr ⟨d, hd, rfl⟩]
            simp only [herror]
          rw [herror] at hplace
          rw [hfailure]
          exact FirstUnmet.append hplace _

/-- A marker is valid exactly if it meets all requirements; otherwise
the error is the one of the first requirement that it does not meet.
Every error is about the kind of the marker, and says its name. -/
theorem validate_by_requirements (r : Registry) (member : Member) (marker : Marker) :
    ((∃ b, r.validate member marker = .ok b)
        ↔ ∀ q ∈ r.requirements member marker, q.holds)
      ∧ (∀ e, r.validate member marker = .error e
        ↔ FirstUnmet (r.requirements member marker) e)
      ∧ ∀ e, r.validate member marker = .error e →
        e.kind = marker.kind
          ∧ ∃ before after, e.message = before ++ marker.kind.name ++ after := by
  have hreports := reports_failure? r member marker
  have herror : ∀ e, r.validate member marker = .error e
      ↔ FirstUnmet (r.requirements member marker) e := fun e => by
    rw [← failure?_eq_some_iff, hreports.eq_some_iff]
  refine ⟨?_, herror, fun e he => ?_⟩
  · rw [← hreports.eq_none_iff, failure?_eq_none_iff]
    simp only [validate_eq_ok_iff]
  · obtain ⟨before, q, after, hsplit, -, -, rfl⟩ := (herror e).mp he
    have hkind : q.error.kind = marker.kind :=
      kind_of_mem_requirements (by rw [hsplit]; simp)
    exact ⟨hkind, hkind ▸ q.error.exists_message_eq⟩

end Registry

/-! ### A view marker in its place and out of it -/

namespace Caption

open Registry Requirement

/-- The kind of views. -/
def kind : Kind := ⟨"Bind"⟩

/-- The registry of that kind, without classes. -/
def registry : Registry := (ofClassPath .empty).attempt (.view kind)

/-- A view. -/
def caption : Member := .field { name := "caption", type := .view }

/-- A method that only its class can call. -/
def refresh : Member :=
  .method { name := "refresh", parameters := [], returns := .void, visibility := .ownClass }

/-- The marker of the kind with some ids. -/
def marker (ids : List ResourceId) : Marker := ⟨kind, ids, false⟩

/-- A view takes a view. -/
theorem validate_caption : ∃ b, registry.validate caption (marker [⟨7⟩]) = .ok b := by
  refine ⟨.view kind { name := "caption", type := .view } ⟨7⟩ false, ?_⟩
  have hplaced : WellPlaced .view caption (marker [⟨7⟩]) :=
    placementError?_eq_none_iff.mp (by decide)
  exact Valid.validate (.view rfl hplaced (by decide))

/-- On the method, the ids are blamed before the method. -/
theorem validate_refresh : registry.validate refresh (marker [⟨7⟩, .null])
    = .error (.marker (.malformedId kind refresh .null)) := by
  decide

/-- The field meets all requirements, and of several that the method does
not meet the first is that on its second id. -/
theorem validate_by_requirements_caption_and_refresh :
    (∃ b, registry.validate caption (marker [⟨7⟩]) = .ok b)
      ∧ (∀ q ∈ registry.requirements caption (marker [⟨7⟩]), q.holds)
      ∧ FirstUnmet (registry.requirements refresh (marker [⟨7⟩, .null]))
        (.marker (.malformedId kind refresh .null)) := by
  obtain ⟨hcaption, -, -⟩ := validate_by_requirements registry caption (marker [⟨7⟩])
  obtain ⟨-, hrefresh, -⟩ := validate_by_requirements registry refresh (marker [⟨7⟩, .null])
  exact ⟨validate_caption, hcaption.mp validate_caption, (hrefresh _).mp validate_refresh⟩

end Caption

end BindingCompiler
