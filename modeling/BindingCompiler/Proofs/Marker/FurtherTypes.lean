import BindingCompiler.Proofs.ClassPath.Assignability
import BindingCompiler.Proofs.Marker.Validity
import BindingCompiler.Proofs.Registry.ResourceSafety

/-!
# `BindingCompiler.Proofs.Marker.FurtherTypes`: fields after further declarations

A type that is declared in addition can be the missing link between types that were declared
before. It can put two lines of the hierarchy together or close a cycle, so a walk to all
supertypes goes other ways than before, and a field can be bound by another variant of its kind.
But nothing that held before is lost.

A class path grows when its declarations stay as they are (`ClassPath.GrowsTo`). Chains of
supertypes stay then, and with them the relations between types, the interfaces and the fields
that a marker is valid on. Methods are another matter: an interface that is declared later can
leave a method open in a listener that had none.

`declare_withdraws_nothing` says this of one more class.
-/

set_option autoImplicit false

namespace BindingCompiler

namespace ClassPath

/-- What is declared in `cp` is declared in `after` in the same way. -/
def GrowsTo (cp after : ClassPath) : Prop := ∀ t c, cp.get? t = some c → after.get? t = some c

variable {cp after : ClassPath} {t u : TypeName}

/-- A class path grows by a class that it does not declare. -/
theorem growsTo_insert {c : ClassType} (hnew : cp.contains c.name = false) :
    cp.GrowsTo (cp.insert c) := by
  intro t d hd
  have hne : c.name ≠ t := by
    rintro rfl
    rw [contains, hd] at hnew
    exact absurd hnew (by simp)
  rw [get?_insert, if_neg hne]
  exact hd

namespace GrowsTo

/-! ### Relations between types -/

/-- A step from a type to a supertype stays. -/
theorem extends_of_extends (h : cp.GrowsTo after) (hext : cp.Extends t u) : after.Extends t u := by
  obtain ⟨c, hc, hu⟩ := hext
  exact ⟨c, h t c hc, hu⟩

/-- Chains of supertypes stay. -/
theorem transGen (h : cp.GrowsTo after) (hline : Relation.TransGen cp.Extends t u) :
    Relation.TransGen after.Extends t u :=
  Relation.TransGen.mono (fun _ _ => h.extends_of_extends) _ _ hline

/-- A subclass stays one, although the walk to its supertypes may go other ways. -/
theorem isSubclassOf (h : cp.GrowsTo after) (hsub : cp.isSubclassOf t u = true) :
    after.isSubclassOf t u = true := by
  -- Chains do not depend on the way of the walk.
  rw [isSubclassOf_iff] at hsub ⊢
  rcases hsub with heq | ⟨ht, hu, rfl | hline⟩
  · exact .inl heq
  · exact .inr ⟨ht, hu, .inl rfl⟩
  · exact .inr ⟨ht, hu, .inr (h.transGen hline)⟩

/-- A conversion stays possible by the same rules. -/
theorem assignable (h : cp.GrowsTo after) (hconv : cp.Assignable t u) : after.Assignable t u := by
  -- Of the rules, only the one for inherited types reads the declarations.
  induction hconv with
  | same t => exact .same t
  | items ha hb hx hy _ ih => exact .items ha hb hx hy ih
  | arrayAsObject ha => exact .arrayAsObject ha
  | inherited ha hb hpa hpb hline => exact .inherited ha hb hpa hpb (hline.imp_right h.transGen)

/-- A value that can be stored still can. -/
theorem isAssignable (h : cp.GrowsTo after) (hconv : cp.isAssignable t u = true) :
    after.isAssignable t u = true :=
  isAssignable_iff.mpr (h.assignable (isAssignable_iff.mp hconv))

/-- A cast goes in the direction that it went in before. -/
theorem isCastable (h : cp.GrowsTo after) (hcast : cp.isCastable t u = true) :
    after.isCastable t u = true := by
  rw [ClassPath.isCastable, Bool.or_eq_true] at hcast ⊢
  exact hcast.imp h.isAssignable h.isAssignable

/-! ### Fields -/

/-- A declared interface stays one. -/
theorem isInterface (h : cp.GrowsTo after) (hinterface : cp.isInterface t = true) :
    after.isInterface t = true := by
  unfold ClassPath.isInterface at hinterface ⊢
  cases hget : cp.get? t with
  | none =>
      rw [hget] at hinterface
      exact absurd hinterface Bool.false_ne_true
  | some c =>
      rw [hget] at hinterface
      rw [h t c hget]
      exact hinterface

/-- A field that can hold a view can still hold one. -/
theorem canHoldView (h : cp.GrowsTo after) (hholds : cp.canHoldView t = true) :
    after.canHoldView t = true := by
  rw [ClassPath.canHoldView, Bool.and_eq_true, Bool.or_eq_true] at hholds ⊢
  exact hholds.imp_right (Or.imp h.isInterface h.isSubclassOf)

/-- Where a variant fits, one still fits; it may be another one. -/
theorem exists_fittingVariant? (h : cp.GrowsTo after) {variants : List ResourceSpec}
    {spec : ResourceSpec} (hfits : Registry.fittingVariant? cp variants t = some spec) :
    ∃ spec', Registry.fittingVariant? after variants t = some spec' := by
  obtain ⟨hmem, hconv⟩ := Registry.fittingVariant?_spec hfits
  cases hafter : Registry.fittingVariant? after variants t with
  | some spec' => exact ⟨spec', rfl⟩
  | none =>
      have hnot := Registry.not_isAssignable_of_fittingVariant? hafter hmem
      exact absurd (h.isAssignable hconv) hnot

/-- A marker that is valid on a field is still valid on it, over the same kinds. -/
theorem exists_valid {r later : Registry} (h : r.classPath.GrowsTo later.classPath)
    (hkinds : later.kinds = r.kinds) {field : Field} {marker : Marker} {b : Binding}
    (hvalid : r.Valid (.field field) marker b) : ∃ b', later.Valid (.field field) marker b' := by
  have hdescriptor : ∀ kind, later.descriptor? kind = r.descriptor? kind := by
    intro kind
    rw [Registry.descriptor?, hkinds, Registry.descriptor?]
  -- A field has markers of views and of resources, and its place does not depend on the types.
  cases hvalid with
  | view registered placed holds =>
      exact ⟨_, .view ((hdescriptor _).trans registered) placed (h.canHoldView holds)⟩
  | resource registered placed fits =>
      obtain ⟨spec', hspec'⟩ := h.exists_fittingVariant? fits
      exact ⟨_, .resource ((hdescriptor _).trans registered) placed hspec'⟩

end GrowsTo

end ClassPath

/-- A declaration changes no kind. -/
theorem Registry.descriptor?_declare (r : Registry) (c : ClassType) (kind : Kind) :
    (r.declare c).descriptor? kind = r.descriptor? kind := rfl

/-- One more class withdraws nothing: types that are related stay related, and a marker that is
valid on a field stays valid on it in a registry of the same kinds. -/
theorem declare_withdraws_nothing {cp : ClassPath} {c : ClassType}
    (hnew : cp.contains c.name = false) :
    (∀ t u, cp.isSubclassOf t u = true → (cp.insert c).isSubclassOf t u = true)
      ∧ (∀ t u, cp.isAssignable t u = true → (cp.insert c).isAssignable t u = true)
      ∧ (∀ t u, cp.isCastable t u = true → (cp.insert c).isCastable t u = true)
      ∧ ∀ r : Registry, r.classPath = cp → ∀ (field : Field) (marker : Marker) (b : Binding),
        r.validate (.field field) marker = .ok b →
          ∃ b', (r.declare c).validate (.field field) marker = .ok b' := by
  have hgrows := ClassPath.growsTo_insert hnew
  refine ⟨fun _ _ => hgrows.isSubclassOf, fun _ _ => hgrows.isAssignable,
    fun _ _ => hgrows.isCastable, ?_⟩
  rintro r rfl field marker b hvalidate
  have hlater : r.classPath.GrowsTo (r.declare c).classPath := hgrows
  obtain ⟨b', hb'⟩ := hlater.exists_valid rfl (Registry.valid_of_validate hvalidate)
  exact ⟨b', hb'.validate⟩

/-! ### A title that turns out to be a text -/

namespace Heading

/-- A class that extends a class that is not declared. -/
def title : ClassType :=
  { ClassType.plain ⟨"com.example.Title"⟩ with parent? := some ⟨"com.example.Heading"⟩ }

/-- The missing class, which extends its own subclass and is a sequence of characters. -/
def heading : ClassType :=
  { ClassType.plain ⟨"com.example.Heading"⟩ with
    parent? := some title.name, interfaces := [.charSequence] }

/-- The class path without the missing class. -/
def classPath : ClassPath :=
  ClassPath.empty.insertAll [.plain .object, .interface .charSequence, TextResource.string, title]

/-- A kind that tries titles before texts. -/
def kind : Kind := ⟨"BindTitle"⟩

/-- How titles are fetched. -/
def titles : ResourceSpec := ⟨title.name, "getTitle"⟩

/-- How texts are fetched. -/
def texts : ResourceSpec := ⟨.string, "getString"⟩

/-- The registry of the kind. -/
def registry : Registry := (Registry.ofClassPath classPath).enter kind (.resource [titles, texts])

/-- A field that takes any sequence of characters. -/
def caption : Field := { name := "caption", type := .charSequence }

/-- A marker of the kind. -/
def marker : Marker := ⟨kind, [⟨7⟩], false⟩

/-- The kind has its two variants. -/
theorem descriptor?_kind : registry.descriptor? kind = some (.resource [titles, texts]) := by
  rw [registry, Registry.descriptor?_enter, if_pos rfl]

/-- The field takes the value of the first variant that converts to it. -/
theorem validate_caption {r : Registry}
    (hkind : r.descriptor? kind = some (.resource [titles, texts])) {spec : ResourceSpec}
    (hfits : [titles, texts].find? (fun v => r.classPath.isAssignable v.valueType caption.type)
      = some spec) :
    r.validate (.field caption) marker = .ok (.resource kind caption ⟨7⟩ spec) := by
  have hother : ([titles, texts].find? fun v => v.valueType == caption.type) = none := by decide
  have hvariant :
      Registry.fittingVariant? r.classPath [titles, texts] caption.type = some spec := by
    rw [Registry.fittingVariant?, hother]
    exact hfits
  have hplaced : Registry.WellPlaced .resource (.field caption) marker :=
    Registry.placementError?_eq_none_iff.mp (by decide)
  exact (Registry.Valid.resource hkind hplaced hvariant).validate

/-- Without the missing class, a title is no sequence of characters, but a text is one. -/
theorem find?_before : [titles, texts].find?
    (fun v => classPath.isAssignable v.valueType caption.type) = some texts := by
  have hwalk : classPath.hierarchy titles.valueType = [title] :=
    ClassPath.explore_of_within 2 (by decide)
  have htitle : classPath.isAssignable titles.valueType caption.type = false := by
    refine ClassPath.isAssignable_eq_false (by decide) (by decide) (by decide) (by decide) ?_
    rw [hwalk]
    decide
  have hextends : classPath.Extends .string .charSequence :=
    ⟨TextResource.string, by decide, by decide⟩
  have htext : classPath.isAssignable texts.valueType caption.type = true :=
    (ClassPath.isAssignable_iff_reaches (by decide) (by decide) (by decide) (by decide)).mpr
      (.inr (.single hextends))
  simp only [List.find?_cons, htitle, htext]

/-- With it, a title is one as well. -/
theorem find?_after : [titles, texts].find?
    (fun v => (classPath.insert heading).isAssignable v.valueType caption.type) = some titles := by
  have hheading : (classPath.insert heading).Extends title.name heading.name :=
    ⟨title, by decide, by decide⟩
  have hcharacters : (classPath.insert heading).Extends heading.name .charSequence :=
    ⟨heading, by decide, by decide⟩
  have htitle : (classPath.insert heading).isAssignable titles.valueType caption.type = true :=
    (ClassPath.isAssignable_iff_reaches (by decide) (by decide) (by decide) (by decide)).mpr
      (.inr (.tail (.single hheading) hcharacters))
  simp only [List.find?_cons, htitle]

/-- The missing class closes a cycle, and the field takes titles in place of texts. It stays bound,
and a title stays a heading. -/
theorem declare_withdraws_nothing_heading :
    classPath.contains heading.name = false
      ∧ registry.validate (.field caption) marker = .ok (.resource kind caption ⟨7⟩ texts)
      ∧ (∃ b, (registry.declare heading).validate (.field caption) marker = .ok b
        ∧ b = .resource kind caption ⟨7⟩ titles)
      ∧ (classPath.insert heading).isSubclassOf title.name heading.name = true := by
  have hnew : classPath.contains heading.name = false := by decide
  obtain ⟨hsub, -, -, hfields⟩ := declare_withdraws_nothing hnew
  have hbefore : registry.validate (.field caption) marker
      = .ok (.resource kind caption ⟨7⟩ texts) := validate_caption descriptor?_kind find?_before
  have hkind : (registry.declare heading).descriptor? kind = some (.resource [titles, texts]) := by
    rw [Registry.descriptor?_declare]
    exact descriptor?_kind
  have hafter : (registry.declare heading).validate (.field caption) marker
      = .ok (.resource kind caption ⟨7⟩ titles) := validate_caption hkind find?_after
  obtain ⟨b, hb⟩ := hfields registry rfl caption marker _ hbefore
  have hline : Relation.TransGen classPath.Extends title.name heading.name :=
    .single ⟨title, by decide, by decide⟩
  refine ⟨hnew, hbefore, ⟨b, hb, ?_⟩, hsub _ _ ?_⟩
  · rw [hafter] at hb
    cases hb
    rfl
  · exact ClassPath.isSubclassOf_iff.mpr (.inr ⟨by decide, by decide, .inr hline⟩)

end Heading

end BindingCompiler
