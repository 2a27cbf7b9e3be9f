import BindingCompiler.Registry.Builtin
import BindingCompiler.Proofs.ClassPath.Locality
import BindingCompiler.Proofs.Registry.Acceptance
import BindingCompiler.Proofs.Registry.Runs

/-!
# `BindingCompiler.Proofs.Registry.Builtin`: the built-in kinds pass their checks

The framework declares each of its classes once, and of the methods that
the built-in kinds call none shares its name with a method of another
class. So a lookup of such a method finds what the class itself declares
(`findMethods_of_unshared`), whatever the walk passes on its way. The
checks are settled by kind:

* every accessor of a built-in resource returns the value type itself,
  so its check needs no subtyping (`variantFault?_of_returns`);
* every built-in listener is an interface with one method, which the
  setter of its owner takes as it is (`resolveListener_listener`).

Hence the registry of the built-in kinds exists (`exists_builtin`).
-/

set_option autoImplicit false

namespace BindingCompiler

open Text

namespace ClassPath

/-! ### The framework -/

namespace Android

/-- The classes of the framework. -/
def classes : List ClassType := values ++ [resourceTable, view] ++ viewListeners ++ widgets

/-- The methods of one name in the classes other than `t`. -/
def elsewhere (t : TypeName) (name : String) : List Method :=
  classes.flatMap fun c => if c.name = t then [] else c.methods.filter fun m => m.name == name

/-- The names of the classes are distinct. -/
theorem nodup_classes : (classes.map ClassType.name).Nodup := by decide +kernel

end Android

/-- A type is declared in the framework as its classes say. -/
theorem get?_android_iff {t : TypeName} {c : ClassType} :
    android.get? t = some c ↔ c ∈ Android.classes ∧ c.name = t := by
  constructor
  · intro h
    have hfind : (Android.classes.reverse.find? fun c => c.name == t) = some c := by
      rw [android, get?_insertAll] at h
      exact Option.or_none.symm.trans h
    exact ⟨List.mem_reverse.mp (List.mem_of_find?_eq_some hfind),
      by simpa using List.find?_some hfind⟩
  · rintro ⟨hc, hname⟩
    exact get?_insertAll_of_mem Android.nodup_classes hc hname

/-- A class of the framework is found. -/
theorem contains_android {t : TypeName} (h : t ∈ Android.classes.map ClassType.name) :
    android.contains t = true := by
  obtain ⟨c, hc⟩ := List.mem_map.mp h
  exact Option.isSome_iff_exists.mpr ⟨c, get?_android_iff.mpr hc⟩

/-- A method of a name that no other class of the framework uses is
looked up in its class. -/
theorem findMethods_android {c : ClassType} {name : String} (hc : c ∈ Android.classes)
    (hunshared : Android.elsewhere c.name name = []) :
    android.findMethods c.name name
      = Method.firstOfEach [] (c.methods.filter fun m => m.name == name) := by
  refine findMethods_of_unshared (get?_android_iff.mpr ⟨hc, rfl⟩) fun d hd hne => ?_
  have hd' := (get?_android_iff.mp (get?_eq_some_iff.mpr ⟨hd, rfl⟩)).1
  have hnone := List.flatMap_eq_nil_iff.mp hunshared d hd'
  rwa [if_neg hne] at hnone

end ClassPath

namespace Registry

open ClassPath

/-- Every built-in resource has variants, and the accessor of each
returns its value type, whose class is part of the framework. -/
theorem builtinResources_returns : ∀ k ∈ builtinResources, k.2 ≠ [] ∧ ∀ v ∈ k.2,
    isBlankText v.accessor = false ∧ v.valueType.isVoid = false
      ∧ (v.valueType.element.isReference = true → android.contains v.valueType.element = true)
      ∧ (android.accessor? v.accessor).map Method.returns = some v.valueType := by
  have htable : Android.resourceTable ∈ Android.classes := by decide +kernel
  -- All that has to be looked up is the class list, where the facts are decided.
  have hfacts : ∀ k ∈ builtinResources, k.2 ≠ [] ∧ ∀ v ∈ k.2,
      isBlankText v.accessor = false ∧ v.valueType.isVoid = false
        ∧ (v.valueType.element.isReference = true →
          v.valueType.element ∈ Android.classes.map ClassType.name)
        ∧ Android.elsewhere .resources v.accessor = []
        ∧ ((Method.firstOfEach [] (Android.resourceTable.methods.filter fun m =>
            m.name == v.accessor)).find? fun m => m.parameters == [TypeName.int]).map Method.returns
          = some v.valueType := by
    decide +kernel
  intro k hk
  obtain ⟨hsome, hvariants⟩ := hfacts k hk
  refine ⟨hsome, fun v hv => ?_⟩
  obtain ⟨hname, hvalue, hclass, hunshared, hreturns⟩ := hvariants v hv
  refine ⟨hname, hvalue, fun hreference => contains_android (hclass hreference), ?_⟩
  have hfound := findMethods_android htable hunshared
  rw [accessor?, show android.findMethods .resources v.accessor = _ from hfound]
  exact hreturns

/-- The variants of a built-in resource are accepted wherever the
accessors are those of the framework and its classes are declared, be it
by other declarations. -/
theorem variantsFault?_builtin {cp : ClassPath}
    (hcontains : ∀ t, android.contains t = true → cp.contains t = true)
    (haccessors : ∀ name, cp.accessor? name = android.accessor? name)
    {k : Kind × List ResourceSpec} (hk : k ∈ builtinResources) : cp.variantsFault? k.2 = none := by
  obtain ⟨hsome, hvariants⟩ := builtinResources_returns k hk
  rw [variantsFault?, if_neg (by simpa using hsome), List.findSome?_eq_none_iff]
  intro v hv
  obtain ⟨hname, hvalue, hclass, hreturns⟩ := hvariants v hv
  rw [← haccessors] at hreturns
  exact variantFault?_of_returns hname hvalue
    (fun hreference => hcontains _ (hclass hreference)) hreturns

/-- The spec of every built-in listener is accepted. -/
theorem exists_resolveListener_builtin :
    ∀ k ∈ builtinListeners, ∃ l, android.resolveListener k.2 = .ok l := by
  have hnames : ∀ k ∈ builtinListeners, nameFault? k.2 = none ∧ k.2.unsetsWithNull = true
      ∧ roleFault? .owner k.2.owner = none ∧ roleFault? .listener k.2.listener = none := by
    decide +kernel
  have howners : ∀ k ∈ builtinListeners, ∃ c ∈ Android.classes, c.name = k.2.owner
      ∧ c.isPublic = true ∧ Android.elsewhere c.name k.2.setter = []
      ∧ Method.firstOfEach [] (c.methods.filter fun m => m.name == k.2.setter)
        = [Android.setter k.2.setter k.2.listener] := by
    decide +kernel
  have hlisteners : ∀ k ∈ builtinListeners, ∃ c ∈ Android.classes, ∃ m ∈ c.methods,
      c = Android.listener k.2.listener m ∧ m.isAbstract = true
        ∧ isSupportedReturn m.returns = true
        ∧ k.2.callback?.all (fun name => m.name == name) = true := by
    decide +kernel
  intro k hk
  obtain ⟨hnamed, hunset, hownerRole, hlistenerRole⟩ := hnames k hk
  obtain ⟨owner, howner, hownerName, hpublic, hunshared, hmethods⟩ := howners k hk
  obtain ⟨listener, hlistener, m, -, hone, hopen, hreturns, hcallback⟩ := hlisteners k hk
  rw [hone] at hlistener
  have hsetter : android.findMethods k.2.owner k.2.setter
      = [Android.setter k.2.setter k.2.listener] := by
    rw [← hownerName, findMethods_android howner hunshared]
    exact hmethods
  exact ⟨_, resolveListener_listener hnamed hunset hownerRole hlistenerRole
    (get?_android_iff.mpr ⟨howner, hownerName⟩) hpublic (get?_android_iff.mpr ⟨hlistener, rfl⟩)
    hopen hreturns hcallback hsetter⟩

/-! ### The registry of the built-in kinds -/

/-- The registrations of the built-in kinds. -/
def builtinRegistrations : List Registration :=
  .view builtinView :: (builtinResources.map fun k => .resource k.1 k.2)
    ++ builtinListeners.map fun k => .listener k.1 k.2

/-- Resource kinds are registered one after the other. -/
theorem registerResources_eq (r : Registry) (kinds : List (Kind × List ResourceSpec)) :
    r.registerResources kinds = r.registerEach (kinds.map fun k => .resource k.1 k.2) := by
  rw [registerEach, List.foldlM_map]
  rfl

/-- Listener kinds are registered one after the other. -/
theorem registerListeners_eq (r : Registry) (kinds : List (Kind × ListenerSpec)) :
    r.registerListeners kinds = r.registerEach (kinds.map fun k => .listener k.1 k.2) := by
  rw [registerEach, List.foldlM_map]
  rfl

/-- The built-in kinds are registered over the framework. -/
theorem builtin_eq : builtin = (ofClassPath .android).registerEach builtinRegistrations := by
  simp only [builtin, registerResources_eq, registerListeners_eq]
  rw [builtinRegistrations, registerEach_append]
  rfl

/-- The built-in kinds leave the framework as it is, and what they stand
for is what their checks gave there. -/
theorem origin_of_builtin {r : Registry} (h : builtin = .ok r) :
    r.classPath = .android ∧ ∀ kind d, r.descriptor? kind = some d →
      ∃ g ∈ builtinRegistrations, g.kind = kind ∧ ClassPath.android.check g = .ok d := by
  rw [builtin_eq] at h
  exact exists_registration h

/-- Each of them is accepted there. -/
theorem exists_check_builtin {g : Registration} (hg : g ∈ builtinRegistrations) :
    ∃ d, ClassPath.android.check g = .ok d := by
  rcases List.mem_append.mp hg with hg | hg
  · rcases List.mem_cons.mp hg with rfl | hg
    · exact ⟨.view, rfl⟩
    · obtain ⟨k, hk, rfl⟩ := List.mem_map.mp hg
      have hfault : ClassPath.android.variantsFault? k.2 = none :=
        variantsFault?_builtin (fun _ h => h) (fun _ => rfl) hk
      exact ⟨.resource k.2, by simp [check, hfault]⟩
  · obtain ⟨k, hk, rfl⟩ := List.mem_map.mp hg
    obtain ⟨l, hl⟩ := exists_resolveListener_builtin k hk
    exact ⟨.listener l, check_of_resolveListener hl⟩

/-- The registry of the built-in kinds exists, and it has them all. -/
theorem exists_builtin : ∃ r, builtin = .ok r
    ∧ ∀ kind ∈ builtinRegistrations.map Registration.kind, r.contains kind = true := by
  rw [builtin_eq]
  obtain ⟨r, hr, hkinds⟩ := exists_registerEach (r := ofClassPath .android) fun g hg =>
    exists_check_builtin hg
  exact ⟨r, hr, fun kind hkind => hkinds kind (.inl hkind)⟩

end Registry

end BindingCompiler
