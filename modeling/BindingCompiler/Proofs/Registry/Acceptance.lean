import BindingCompiler.ClassPath.Android
import BindingCompiler.Proofs.Registry.Resolution
import Mathlib.Data.List.Nodup

/-!
# `BindingCompiler.Proofs.Registry.Acceptance`: specs that are accepted

What it takes for a spec to pass its check where the class path is
plain: the methods that are called have names that no other class uses
(`findMethods_of_unshared`), the accessor of a resource returns the
value type itself (`variantFault?_of_returns`), and the listener is an
interface with one method, which the setter of its owner takes as it is
(`resolveListener_listener`). The subtyping that the checks allow for is
not needed then.
-/

set_option autoImplicit false

namespace BindingCompiler

open Text

namespace ClassPath

variable {cp : ClassPath} {t : TypeName} {c : ClassType}

/-- A lookup finds the methods of the type itself if no other class has
one of the name. -/
theorem findMethods_of_unshared {name : String} (hget : cp.get? t = some c)
    (hothers : ∀ d ∈ cp.classes.entries, d.name ≠ t →
      d.methods.filter (fun m => m.name == name) = []) :
    cp.findMethods t name = Method.firstOfEach [] (c.methods.filter fun m => m.name == name) := by
  obtain rfl := name_of_get? hget
  have hmem : c ∈ cp.hierarchy c.name := mem_hierarchy_iff.mpr ⟨hget, .refl⟩
  obtain ⟨before, after, hwalk⟩ := List.append_of_mem hmem
  have hnames := nodup_hierarchy cp c.name
  rw [hwalk, List.map_append, List.map_cons, List.nodup_middle, List.nodup_cons] at hnames
  -- On both sides of the class, the walk passes classes of other names.
  have hnone : ∀ d ∈ before ++ after, d.methods.filter (fun m => m.name == name) = [] := by
    intro d hd
    have hdwalk : d ∈ cp.hierarchy c.name := by
      rw [hwalk]
      rcases List.mem_append.mp hd with hd | hd
      · exact List.mem_append_left _ hd
      · exact List.mem_append_right _ (List.mem_cons_of_mem _ hd)
    have hdeclared := get?_eq_some_iff.mp (mem_hierarchy_iff.mp hdwalk).1
    refine hothers d hdeclared.1 fun hsame => hnames.1 ?_
    rw [← List.map_append, ← hsame]
    exact List.mem_map_of_mem hd
  have hbefore : before.flatMap (fun d => d.methods.filter fun m => m.name == name) = [] :=
    List.flatMap_eq_nil_iff.mpr fun d hd => hnone d (List.mem_append_left _ hd)
  have hafter : after.flatMap (fun d => d.methods.filter fun m => m.name == name) = [] :=
    List.flatMap_eq_nil_iff.mpr fun d hd => hnone d (List.mem_append_right _ hd)
  rw [findMethods, hwalk, List.flatMap_append, List.flatMap_cons, hbefore, hafter, List.append_nil,
    List.nil_append]

/-! ### The two checks -/

/-- A variant is accepted whose accessor returns the value type itself. -/
theorem variantFault?_of_returns {v : ResourceSpec} (hname : isBlankText v.accessor = false)
    (hvalue : v.valueType.isVoid = false)
    (hdeclared : v.valueType.element.isReference = true → cp.contains v.valueType.element = true)
    (hreturns : (cp.accessor? v.accessor).map Method.returns = some v.valueType) :
    cp.variantFault? v = none := by
  obtain ⟨m, hm, hsame⟩ := Option.map_eq_some_iff.mp hreturns
  have hfits : cp.isAssignable m.returns v.valueType = true := by
    rw [hsame, isAssignable]
    simp
  have hknown : (v.valueType.element.isReference && !cp.contains v.valueType.element) = false := by
    cases hreference : v.valueType.element.isReference with
    | false => rfl
    | true => simp [hdeclared hreference]
  simp [variantFault?, hname, hvalue, hknown, hm, hfits]

/-- A listener interface leaves its one method open. -/
theorem abstractMethods_listener {m : Method} (hget : cp.get? t = some (Android.listener t m))
    (hopen : m.isAbstract = true) : cp.abstractMethods t = [m] := by
  rw [abstractMethods, superclasses_of_parent_none hget rfl, hierarchy_of_supertypes_nil hget rfl]
  simp [Android.listener, Method.firstOfEach, hopen]

/-- The only method of a name is the setter of the listener that it takes. -/
theorem findSetter_setter {owner listener : TypeName} {name : String}
    (h : cp.findMethods owner name = [Android.setter name listener]) :
    cp.findSetter owner listener name = .ok (Android.setter name listener) := by
  have hself : cp.isSubclassOf listener listener = true := by simp [isSubclassOf]
  rw [findSetter, h]
  simp [Android.setter, hself]

/-- A spec is accepted whose listener is an interface with one method
and whose owner has one method to attach it. -/
theorem resolveListener_listener {spec : ListenerSpec} {owner : ClassType} {m : Method}
    (hnamed : nameFault? spec = none) (hunset : spec.unsetsWithNull = true)
    (hownerRole : roleFault? .owner spec.owner = none)
    (hlistenerRole : roleFault? .listener spec.listener = none)
    (howner : cp.get? spec.owner = some owner) (hpublic : owner.isPublic = true)
    (hlistener : cp.get? spec.listener = some (Android.listener spec.listener m))
    (hopen : m.isAbstract = true) (hreturns : isSupportedReturn m.returns = true)
    (hcallback : spec.callback?.all (fun name => m.name == name) = true)
    (hsetter : cp.findMethods spec.owner spec.setter = [Android.setter spec.setter spec.listener]) :
    cp.resolveListener spec
      = .ok ⟨spec, Android.setter spec.setter spec.listener, m, [], true⟩ := by
  have habstract := abstractMethods_listener hlistener hopen
  have hpick : pickCallback spec.listener spec.callback? [m] = .ok (m, []) := by
    cases hname : spec.callback? with
    | none => rfl
    | some name =>
        rw [hname] at hcallback
        have hsame : (m.name == name) = true := hcallback
        simp [pickCallback, hsame]
  have hresolves : cp.Resolves spec ⟨spec, Android.setter spec.setter spec.listener, m, [], true⟩
      owner (Android.listener spec.listener m) :=
    { spec_eq := rfl
      named := hnamed
      owner_isClass := hownerRole
      listener_isClass := hlistenerRole
      owner_declared := howner
      listener_declared := hlistener
      accessible := by simp [accessFault?, hpublic, Android.listener, ClassType.interface]
      returns := by simp [habstract, returnFault?, hreturns]
      picked := habstract ▸ hpick
      attaches := findSetter_setter hsetter
      detaches := by simp [hunset]
      isInterface_eq := rfl }
  exact hresolves.resolveListener

end ClassPath

end BindingCompiler
