import BindingCompiler.Registry.Check
import BindingCompiler.Proofs.ClassPath.Reachability
import Mathlib.Data.List.Nodup

/-!
# `BindingCompiler.Proofs.ClassPath.Locality`: what a walk depends on

A walk from a type reads the declarations of the types that it reaches
and of no others. So two class paths that declare these alike
(`KeepsFrom`) have the same walks from the type, and with them the same
methods, the same superclasses and the same answers to the check of a
spec that names the type.

* `hierarchy_congr`, `superclasses_congr`: the two walks.
* `resolveListener_congr`: a listener spec depends on what its owner and
  its listener type reach.
* `get?_insertAll`: what is declared after further declarations.
-/

set_option autoImplicit false

namespace BindingCompiler.ClassPath

/-- Every type that `t` reaches in `cp` is declared in `after` as it is in `cp`, or in neither. -/
def KeepsFrom (cp after : ClassPath) (t : TypeName) : Prop :=
  ∀ u, cp.Reaches t u → after.get? u = cp.get? u

/-- A set of types that holds the supertypes of its declared members
holds all that a member reaches. -/
theorem Reaches.mem_of_closed {cp : ClassPath} {t u : TypeName} {types : List TypeName}
    (h : cp.Reaches t u) (ht : t ∈ types)
    (hclosed : ∀ v ∈ types, ∀ c, cp.get? v = some c → ∀ w ∈ c.supertypes, w ∈ types) :
    u ∈ types := by
  induction h with
  | refl => exact ht
  | tail _ hstep ih =>
      obtain ⟨c, hc, hmem⟩ := hstep
      exact hclosed _ ih c hc _ hmem

section
variable {cp after : ClassPath} {t : TypeName}

/-- The type itself is kept. -/
theorem KeepsFrom.get?_eq (h : cp.KeepsFrom after t) : after.get? t = cp.get? t :=
  h t Relation.ReflTransGen.refl

/-- What a type keeps, its direct supertypes keep. -/
theorem KeepsFrom.supertype (h : cp.KeepsFrom after t) {c : ClassType} (hc : cp.get? t = some c)
    {u : TypeName} (hu : u ∈ c.supertypes) : cp.KeepsFrom after u :=
  fun v hv => h v (Relation.ReflTransGen.head ⟨c, hc, hu⟩ hv)

/-! ### The walks -/

/-- A search with a queue visits the same classes. -/
theorem explore_congr (queue : List TypeName) (found : List ClassType)
    (h : ∀ t ∈ queue, cp.KeepsFrom after t) :
    after.explore queue found = cp.explore queue found := by
  -- Along the search over `cp`; the one over `after` makes the same steps.
  induction queue, found using explore.induct cp with
  | case1 found => rw [explore_nil, explore_nil]
  | case2 found t rest c hseen hget ih =>
      have ht : cp.KeepsFrom after t := h t (by simp)
      rw [explore_visit hseen hget, explore_visit hseen (ht.get?_eq.trans hget)]
      refine ih fun u hu => ?_
      rcases List.mem_append.mp hu with hu | hu
      · exact h u (List.mem_cons_of_mem _ hu)
      · exact ht.supertype hget hu
  | case3 found t rest hskip ih =>
      have ht : cp.KeepsFrom after t := h t (by simp)
      have hrest := ih fun u hu => h u (List.mem_cons_of_mem _ hu)
      cases hget : cp.get? t with
      | none =>
          rw [explore_undeclared hget, explore_undeclared (ht.get?_eq.trans hget)]
          exact hrest
      | some c =>
          cases hseen : found.any fun f => f.name == t with
          | false => exact (hskip c hseen hget).elim
          | true =>
              rw [explore_seen hseen, explore_seen hseen]
              exact hrest

/-- The walk to all supertypes is the same. -/
theorem hierarchy_congr (h : cp.KeepsFrom after t) : after.hierarchy t = cp.hierarchy t :=
  explore_congr [t] [] (by simpa using h)

/-- The walk along the parents is the same. -/
theorem climb_congr (t : TypeName) (chain : List ClassType) (h : cp.KeepsFrom after t) :
    after.climb t chain = cp.climb t chain := by
  induction t, chain using climb.induct cp with
  | case1 t chain c hseen hget parent hparent ih =>
      rw [climb_visit hseen hget, climb_visit hseen (h.get?_eq.trans hget), hparent]
      exact ih (h.supertype hget (by simp [ClassType.supertypes, hparent]))
  | case2 t chain c hseen hget hparent =>
      rw [climb_visit hseen hget, climb_visit hseen (h.get?_eq.trans hget), hparent]
  | case3 t chain hskip =>
      rw [climb_stop hskip]
      exact climb_stop fun c hseen hget => hskip c hseen (h.get?_eq ▸ hget)

/-- The parents are the same. -/
theorem superclasses_congr (h : cp.KeepsFrom after t) : after.superclasses t = cp.superclasses t :=
  climb_congr t [] h

/-! ### What rests on the walks -/

/-- The methods of a name are the same. -/
theorem findMethods_congr (h : cp.KeepsFrom after t) (name : String) :
    after.findMethods t name = cp.findMethods t name := by
  rw [findMethods, findMethods, hierarchy_congr h]

/-- The abstract methods are the same. -/
theorem abstractMethods_congr (h : cp.KeepsFrom after t) :
    after.abstractMethods t = cp.abstractMethods t := by
  rw [abstractMethods, abstractMethods, hierarchy_congr h, superclasses_congr h]

/-- The type is a subclass of the same types. -/
theorem isSubclassOf_congr (h : cp.KeepsFrom after t) (parent : TypeName) :
    after.isSubclassOf t parent = cp.isSubclassOf t parent := by
  rw [isSubclassOf, isSubclassOf, hierarchy_congr h]

/-- The declaration for a role is the same. -/
theorem declared_congr (h : cp.KeepsFrom after t) (role : Role) :
    after.declared role t = cp.declared role t := by
  rw [declared, declared, h.get?_eq]

end

section
variable {cp after : ClassPath}

/-- The setter of an owner is the same. -/
theorem findSetter_congr {owner listener : TypeName} (howner : cp.KeepsFrom after owner)
    (hlistener : cp.KeepsFrom after listener) (name : String) :
    after.findSetter owner listener name = cp.findSetter owner listener name := by
  simp only [findSetter, findMethods_congr howner, isSubclassOf_congr hlistener]

/-- A listener spec is checked with the same result. -/
theorem resolveListener_congr {spec : ListenerSpec} (howner : cp.KeepsFrom after spec.owner)
    (hlistener : cp.KeepsFrom after spec.listener) :
    after.resolveListener spec = cp.resolveListener spec := by
  simp only [resolveListener, declared_congr howner, declared_congr hlistener,
    abstractMethods_congr hlistener, findSetter_congr howner hlistener]

/-- The accessors are the same. -/
theorem accessor?_congr (h : cp.KeepsFrom after .resources) (name : String) :
    after.accessor? name = cp.accessor? name := by
  rw [accessor?, accessor?, findMethods_congr h]

/-! ### Further declarations -/

/-- What a type does not reach can be declared anew without a change for it. -/
theorem keepsFrom_insert {t : TypeName} {c : ClassType} (h : ¬ cp.Reaches t c.name) :
    cp.KeepsFrom (cp.insert c) t := by
  intro u hu
  have hne : c.name ≠ u := by
    rintro rfl
    exact h hu
  rw [get?_insert, if_neg hne]

/-- Of the declarations of a list, the last one of a name decides. -/
theorem get?_insertAll (cp : ClassPath) (cs : List ClassType) (t : TypeName) :
    (cp.insertAll cs).get? t = (cs.reverse.find? fun c => c.name == t).or (cp.get? t) := by
  unfold insertAll
  induction cs generalizing cp with
  | nil => rfl
  | cons c rest ih =>
      rw [List.foldl_cons, ih, get?_insert, List.reverse_cons, List.find?_append]
      by_cases hname : c.name = t
      · simp [hname]
      · simp [hname]

/-- A class of a list with distinct names is declared as it is. -/
theorem get?_insertAll_of_mem {cs : List ClassType} {c : ClassType} {t : TypeName}
    (hnames : (cs.map ClassType.name).Nodup) (h : c ∈ cs) (hname : c.name = t) :
    (cp.insertAll cs).get? t = some c := by
  subst hname
  rw [get?_insertAll]
  cases hfind : cs.reverse.find? fun d => d.name == c.name with
  | none => exact absurd (List.find?_eq_none.mp hfind c (List.mem_reverse.mpr h)) (by simp)
  | some d =>
      have hname : d.name = c.name := by simpa using List.find?_some hfind
      have hd : d ∈ cs := List.mem_reverse.mp (List.mem_of_find?_eq_some hfind)
      rw [List.inj_on_of_nodup_map hnames hd h hname]
      rfl

/-- Declarations of distinct names can be made in any order. -/
theorem insertAll_perm {cs ds : List ClassType} (hperm : cs.Perm ds)
    (hnames : (cs.map ClassType.name).Nodup) : cp.insertAll cs = cp.insertAll ds := by
  refine hperm.foldl_eq' (fun c hc d hd cp => ?_) cp
  by_cases hname : c.name = d.name
  · rw [List.inj_on_of_nodup_map hnames hc hd hname]
  · exact cp.insert_comm hname

/-- What is declared stays declared, if need be by another declaration. -/
theorem contains_insertAll {t : TypeName} (h : cp.contains t = true) (cs : List ClassType) :
    (cp.insertAll cs).contains t = true := by
  rw [contains, get?_insertAll, Option.isSome_or]
  rw [contains] at h
  simp [h]

end

end BindingCompiler.ClassPath
