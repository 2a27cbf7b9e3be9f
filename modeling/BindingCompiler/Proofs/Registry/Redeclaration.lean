import BindingCompiler.Manifest.Basic
import BindingCompiler.Proofs.Registry.Builtin

/-!
# `BindingCompiler.Proofs.Registry.Redeclaration`: built-in kinds under declared types

A configuration declares its types after the built-in kinds have been
checked. A type of the same name replaces one of the framework, and no
check is made again, so a built-in kind may end up with a setter or an
accessor that its class no longer has (`SlideView`).

That is the only way: `Manifest.register_registration_of_registry` shows
that every kind passes its check again, unless it is a built-in one and
a class that its check walks is replaced.
-/

set_option autoImplicit false

namespace BindingCompiler

/-- The types from which the check of a kind walks up. -/
def Descriptor.walked : Descriptor → List TypeName
  | .view => []
  | .resource _ => [.resources]
  | .listener resolved => [resolved.spec.owner, resolved.spec.listener]

/-- Declarations change the class path only. -/
theorem Registry.foldl_declare (r : Registry) (types : List ClassType) :
    types.foldl Registry.declare r = { r with classPath := r.classPath.insertAll types } := by
  induction types generalizing r with
  | nil => rfl
  | cons c rest ih => exact ih (r.declare c)

namespace Manifest

open Registry

/-- The registrations of a configuration in their order. -/
def registrations (m : Manifest) : List Registration :=
  m.views.map .view ++ (m.resources.map fun d => .resource d.kind d.variants)
    ++ m.listeners.map fun d => .listener d.kind d.spec

/-- The kinds that a configuration declares. -/
def kinds (m : Manifest) : List Kind := m.registrations.map Registration.kind

/-- The kinds are registered after all types are declared. -/
theorem register_eq (m : Manifest) (base : Registry) :
    m.register base
      = { base with classPath := base.classPath.insertAll m.types }.registerEach m.registrations := by
  have hviews : ∀ r : Registry, r.registerEach (m.views.map .view)
      = .ok (m.views.foldl registerView r) := by
    intro r
    unfold registerEach
    induction m.views generalizing r with
    | nil => rfl
    | cons kind rest ih => exact ih (r.registerView kind)
  simp only [register, foldl_declare, registerResources_eq, registerListeners_eq, List.map_map]
  rw [registrations, registerEach_append, registerEach_append, hviews]
  rfl

variable {m : Manifest} {r : Registry}

/-- The registry of a configuration has the framework and the declared
types. Every kind comes from a declaration, checked against them, or it
is a built-in one that is not declared, checked against the framework. -/
theorem origin_of_registry (h : m.registry = .ok r) :
    r.classPath = ClassPath.android.insertAll m.types
      ∧ ∀ kind d, r.descriptor? kind = some d →
        (∃ g ∈ m.registrations, g.kind = kind ∧ r.classPath.check g = .ok d)
          ∨ kind ∉ m.kinds
            ∧ ∃ g ∈ builtinRegistrations, g.kind = kind ∧ ClassPath.android.check g = .ok d := by
  obtain ⟨base, hbase, hr⟩ := exists_of_bind_eq_ok h
  obtain ⟨hbasePath, hbuiltin⟩ := origin_of_builtin hbase
  rw [register_eq] at hr
  obtain ⟨hpath, hdeclared⟩ := descriptor?_of_registerEach hr
  rw [← hpath] at hdeclared
  refine ⟨hbasePath ▸ hpath, fun kind d hd => ?_⟩
  obtain hfound | ⟨hno, hold⟩ := hdeclared kind d hd
  · exact .inl hfound
  · refine .inr ⟨fun hmem => ?_, hbuiltin kind d hold⟩
    obtain ⟨g, hg, hkind⟩ := List.mem_map.mp hmem
    exact hno g hg hkind

/-- A configuration whose kinds are accepted over its types has a
registry, with these kinds and the built-in ones. -/
theorem exists_registry
    (h : ∀ g ∈ m.registrations, ∃ d, (ClassPath.android.insertAll m.types).check g = .ok d) :
    ∃ r, m.registry = .ok r
      ∧ ∀ kind, kind ∈ m.kinds ∨ kind ∈ builtinRegistrations.map Registration.kind →
        ∃ d, r.descriptor? kind = some d := by
  obtain ⟨base, hbase, hbuiltin⟩ := exists_builtin
  rw [← (origin_of_builtin hbase).1] at h
  obtain ⟨r, hr, hkinds⟩ :=
    exists_registerEach (r := { base with classPath := base.classPath.insertAll m.types }) h
  refine ⟨r, ?_, fun kind hkind => Option.isSome_iff_exists.mp (hkinds kind ?_)⟩
  · rw [registry, hbase, ← hr, ← register_eq]
    rfl
  · exact hkind.imp id (hbuiltin kind)

/-- A built-in kind is accepted wherever the classes that its check walks are kept. -/
theorem accepts_of_keepsFrom {types : List ClassType} {g : Registration} {d : Descriptor}
    (hg : g ∈ builtinRegistrations) (hcheck : ClassPath.android.check g = .ok d)
    (hkeeps : ∀ t ∈ d.walked, ClassPath.android.KeepsFrom (ClassPath.android.insertAll types) t) :
    (ClassPath.android.insertAll types).Accepts d := by
  obtain ⟨haccepts, hregistration⟩ := ClassPath.accepts_of_check hcheck
  cases d with
  | view => trivial
  | listener l =>
      have howner := hkeeps l.spec.owner (by simp [Descriptor.walked])
      have hlistener := hkeeps l.spec.listener (by simp [Descriptor.walked])
      show (ClassPath.android.insertAll types).resolveListener l.spec = .ok l
      rw [ClassPath.resolveListener_congr howner hlistener]
      exact haccepts
  | resource variants =>
      obtain ⟨k, hk, rfl⟩ : ∃ k ∈ builtinResources, k.2 = variants := by
        rw [← hregistration] at hg
        exact ⟨(g.kind, variants),
          by simpa [builtinRegistrations, Descriptor.registration] using hg, rfl⟩
      have hresources := hkeeps .resources (by simp [Descriptor.walked])
      -- The class of a value may be replaced: it only has to be declared.
      exact variantsFault?_builtin (fun _ h => ClassPath.contains_insertAll h types)
        (ClassPath.accessor?_congr hresources) hk

/-- In the registry of a configuration, every kind that is declared, and
every built-in kind whose check walks classes that are all as the
framework declares them, is registered again from its descriptor without
a change. -/
theorem register_registration_of_registry (h : m.registry = .ok r) {kind : Kind} {d : Descriptor}
    (hd : r.descriptor? kind = some d)
    (hkeeps : kind ∈ m.kinds ∨ ∀ t ∈ d.walked, ClassPath.android.KeepsFrom r.classPath t) :
    r.register (d.registration kind) = .ok r := by
  obtain ⟨hpath, horigin⟩ := origin_of_registry h
  refine (register_registration_eq_ok_iff hd).mpr ?_
  -- A declared kind was checked over the types already, a built-in one before them.
  obtain ⟨g, -, -, hcheck⟩ | ⟨hundeclared, g, hg, -, hcheck⟩ := horigin kind d hd
  · exact (ClassPath.accepts_of_check hcheck).1
  · rw [hpath] at hkeeps ⊢
    exact accepts_of_keepsFrom hg hcheck (hkeeps.resolve_left hundeclared)

end Manifest

/-! ### A view that is declared anew -/

namespace SlideView

open ClassPath Registry

/-- The listener of a view that slides. -/
def slide : TypeName := ⟨"com.example.Slide$Listener"⟩

/-- Its method. -/
def onSlide : Method := Android.callback "onSlide" [] .void

/-- Views with nothing to attach but that listener. -/
def view : ClassType :=
  { ClassType.plain .view with methods := [Android.setter "setOnSlide" slide] }

/-- A kind for that listener. -/
def listener : ListenerDecl := ⟨⟨"OnSlide"⟩, viewListener slide "setOnSlide" "onSlide"⟩

/-- A configuration that declares its own views. -/
def manifest : Manifest :=
  { types := [view, Android.listener slide onSlide], listeners := [listener] }

/-- The framework with these views. -/
def classPath : ClassPath := ClassPath.android.insertAll manifest.types

/-- The names of the declared types are distinct. -/
theorem nodup_types : (manifest.types.map ClassType.name).Nodup := by decide

/-- Views are as they are declared. -/
theorem get?_view : classPath.get? .view = some view :=
  get?_insertAll_of_mem nodup_types List.mem_cons_self rfl

/-- The methods of a view are those it is declared with now, for names
that the other classes do not use. -/
theorem findMethods_view {name : String} (hslide : (onSlide.name == name) = false)
    (hunshared : Android.elsewhere .view name = []) :
    classPath.findMethods .view name
      = Method.firstOfEach [] (view.methods.filter fun m => m.name == name) := by
  have hothers : ∀ d ∈ classPath.classes.entries, d.name ≠ .view →
      d.methods.filter (fun m => m.name == name) = [] := by
    intro d hd hne
    have hget : classPath.get? d.name = some d := get?_eq_some_iff.mpr ⟨hd, rfl⟩
    rw [classPath, get?_insertAll, Option.or_eq_some_iff] at hget
    obtain hdeclared | ⟨-, hframework⟩ := hget
    · -- Of the declared types, the other one is the listener.
      have hmem := List.mem_reverse.mp (List.mem_of_find?_eq_some hdeclared)
      rcases List.mem_cons.mp hmem with rfl | hmem
      · exact absurd rfl hne
      · rw [List.mem_singleton.mp hmem]
        simp [Android.listener, hslide]
    · have hnone := List.flatMap_eq_nil_iff.mp hunshared d (get?_android_iff.mp hframework).1
      rwa [if_neg hne] at hnone
  rw [findMethods_of_unshared get?_view hothers]

/-- The declared kind is accepted. -/
theorem exists_check_listener :
    ∀ g ∈ manifest.registrations, ∃ d, classPath.check g = .ok d := by
  intro g hg
  obtain rfl : g = .listener listener.kind listener.spec := List.mem_singleton.mp hg
  have hlistener : classPath.get? slide = some (Android.listener slide onSlide) :=
    get?_insertAll_of_mem nodup_types (by decide) rfl
  have hsetter : classPath.findMethods .view "setOnSlide" = [Android.setter "setOnSlide" slide] := by
    rw [findMethods_view (by decide) (by decide)]
    decide
  have haccepted : classPath.resolveListener listener.spec
      = .ok ⟨listener.spec, Android.setter "setOnSlide" slide, onSlide, [], true⟩ :=
    resolveListener_listener (by decide) (by decide) (by decide)
      (by decide) get?_view rfl hlistener rfl (by decide) (by decide) hsetter
  exact ⟨_, check_of_resolveListener haccepted⟩

/-- The configuration has a registry. -/
theorem exists_registry_manifest : ∃ r, manifest.registry = .ok r ∧ r.classPath = classPath
    ∧ ∀ kind, kind ∈ manifest.kinds ∨ kind ∈ builtinRegistrations.map Registration.kind →
      ∃ d, r.descriptor? kind = some d := by
  obtain ⟨r, hr, hkinds⟩ := Manifest.exists_registry exists_check_listener
  exact ⟨r, hr, (Manifest.origin_of_registry hr).1, hkinds⟩

/-- A built-in kind stands for its registration. -/
theorem registration_eq {r : Registry} (hr : manifest.registry = .ok r) {g : Registration}
    {d : Descriptor} (hd : r.descriptor? g.kind = some d) (hundeclared : g.kind ∉ manifest.kinds)
    (hbuiltin : ∀ g' ∈ builtinRegistrations, g'.kind = g.kind → g' = g) :
    d.registration g.kind = g := by
  obtain ⟨g', hg', hkind, hcheck⟩ | ⟨-, g', hg', hkind, hcheck⟩ :=
    (Manifest.origin_of_registry hr).2 g.kind d hd
  · exact absurd (List.mem_map.mpr ⟨g', hg', hkind⟩) hundeclared
  · obtain rfl := hbuiltin g' hg' hkind
    exact (accepts_of_check hcheck).2

/-- The built-in kind for clicks. -/
def onClick : Registration :=
  .listener ⟨"OnClick"⟩ (viewListener Android.onClickListener "setOnClickListener" "onClick")

/-- The check of the kind finds no setter any more. -/
theorem check_onClick :
    classPath.check onClick = .error (.unknownSetter .view "setOnClickListener") := by
  have hlistener : classPath.get? Android.onClickListener
      = some (Android.listener Android.onClickListener
        (Android.callback "onClick" [.view] .void)) := by
    rw [classPath, get?_insertAll, Option.or_eq_some_iff]
    exact .inr ⟨by decide, get?_android_iff.mpr ⟨by decide, rfl⟩⟩
  have habstract := abstractMethods_listener hlistener rfl
  have hfound : classPath.findMethods .view "setOnClickListener" = [] := by
    rw [findMethods_view (by decide) (by decide)]
    decide
  have hsetter : classPath.findSetter .view Android.onClickListener "setOnClickListener"
      = .error (.unknownSetter .view "setOnClickListener") := by
    rw [findSetter, hfound]
    rfl
  have hnamed : nameFault? (viewListener Android.onClickListener "setOnClickListener" "onClick")
      = none := by decide
  have hrole : roleFault? .listener Android.onClickListener = none := by decide
  have howner : roleFault? .owner .view = none := by decide
  have hrefused : classPath.resolveListener
      (viewListener Android.onClickListener "setOnClickListener" "onClick")
        = .error (.unknownSetter .view "setOnClickListener") := by
    simp only [resolveListener, hnamed]
    simp only [viewListener, howner, hrole, declared_of_get? get?_view, declared_of_get? hlistener,
      habstract, hsetter]
    rfl
  rw [onClick, check, hrefused]
  rfl

/-- With views that have no setter for clicks any more, the built-in kind
for clicks is in the registry still, and is refused if it is registered
again as it is. -/
theorem register_onClick_refused : ∃ r d, manifest.registry = .ok r
    ∧ r.descriptor? ⟨"OnClick"⟩ = some d ∧ d.family = .listener
    ∧ r.register (d.registration ⟨"OnClick"⟩)
      = .error (.malformed ⟨"OnClick"⟩ (.unknownSetter .view "setOnClickListener")) := by
  obtain ⟨r, hr, hpath, hkinds⟩ := exists_registry_manifest
  obtain ⟨d, hd⟩ := hkinds ⟨"OnClick"⟩ (.inr (by decide))
  have hregistration : d.registration ⟨"OnClick"⟩ = onClick :=
    registration_eq (g := onClick) hr hd (by decide) (by decide)
  refine ⟨r, d, hr, hd, ?_, ?_⟩
  · cases d with
    | listener l => rfl
    | view => exact absurd hregistration (by simp [Descriptor.registration, onClick])
    | resource variants => exact absurd hregistration (by simp [Descriptor.registration, onClick])
  · rw [hregistration, register_eq, hpath, check_onClick]
    rfl

/-- The built-in kind for texts. -/
def bindString : Registration := .resource ⟨"BindString"⟩ [⟨.string, "getString"⟩]

/-- The resource table is kept. -/
theorem keepsFrom_resources : ClassPath.android.KeepsFrom classPath .resources := by
  intro t ht
  have hclosed : ∀ c ∈ Android.classes, c.name ∈ [TypeName.resources, .object] →
      ∀ u ∈ c.supertypes, u ∈ [TypeName.resources, .object] := by decide
  -- From the resource table the walk goes to the root and no further.
  have hmem : t ∈ [TypeName.resources, .object] := by
    refine ht.mem_of_closed (by simp) fun u hu c hc => ?_
    obtain ⟨hclass, rfl⟩ := get?_android_iff.mp hc
    exact hclosed c hclass hu
  have hnew : ∀ u ∈ [TypeName.resources, .object],
      (manifest.types.reverse.find? fun c => c.name == u) = none := by decide
  rw [classPath, get?_insertAll, hnew t hmem, Option.none_or]

/-- The declared kind and the built-in one for texts are registered
again without a change. -/
theorem register_registration_of_registry_manifest : ∃ r, manifest.registry = .ok r
    ∧ (∃ d, r.descriptor? ⟨"OnSlide"⟩ = some d ∧ ⟨"OnSlide"⟩ ∈ manifest.kinds
      ∧ r.register (d.registration ⟨"OnSlide"⟩) = .ok r)
    ∧ ∃ d, r.descriptor? ⟨"BindString"⟩ = some d
      ∧ (∀ t ∈ d.walked, ClassPath.android.KeepsFrom r.classPath t)
      ∧ r.register (d.registration ⟨"BindString"⟩) = .ok r := by
  obtain ⟨r, hr, hpath, hkinds⟩ := exists_registry_manifest
  refine ⟨r, hr, ?_, ?_⟩
  · have hdeclared : (⟨"OnSlide"⟩ : Kind) ∈ manifest.kinds := by decide
    obtain ⟨d, hd⟩ := hkinds _ (.inl hdeclared)
    exact ⟨d, hd, hdeclared, Manifest.register_registration_of_registry hr hd (.inl hdeclared)⟩
  · obtain ⟨d, hd⟩ := hkinds ⟨"BindString"⟩ (.inr (by decide))
    have hregistration : d.registration ⟨"BindString"⟩ = bindString :=
      registration_eq (g := bindString) hr hd (by decide) (by decide)
    have hkeeps : ∀ t ∈ d.walked, ClassPath.android.KeepsFrom r.classPath t := by
      rw [hpath]
      cases d with
      | resource variants => simpa [Descriptor.walked] using keepsFrom_resources
      | view => exact absurd hregistration (by simp [Descriptor.registration, bindString])
      | listener l => exact absurd hregistration (by simp [Descriptor.registration, bindString])
    exact ⟨d, hd, hkeeps, Manifest.register_registration_of_registry hr hd (.inr hkeeps)⟩

end SlideView

end BindingCompiler
