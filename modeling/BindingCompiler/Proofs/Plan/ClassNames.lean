import BindingCompiler.Proofs.Plan.Contents
import BindingCompiler.Proofs.TypeName.Canonical
import Mathlib.Data.List.Nodup

/-!
# `BindingCompiler.Proofs.Plan.ClassNames`: names of generated classes

A generated class that had the name of another one would take its place. The names of targets
are free to look like generated ones: `A$SentoBinding$0` can be a target beside `A`. Still no two
names are the same, for a name is cut at its last dollar in one way only (`nested_injective`).

* The binding class of a target ends in letters and its listener classes in a number, and what
  stands before is the target (`target_eq_of_generates`).
* The numbers of a class count up. A numbering that has handed out names never hands out one of
  them again (`le_of_mem_handOut`), whatever other classes ask in between.

`nodup_generatedTypes` states both, for the plans of a run and for any run of a numbering.
-/

set_option autoImplicit false

namespace BindingCompiler

/-! ### Names at the last dollar -/

namespace TypeName

variable {t u : TypeName}

/-- A name inside a class is known by the class and the name it has there, if that has no
dollar. -/
theorem nested_injective {suffix suffix' : String} (hsuffix : '$' ∉ suffix.toList)
    (hsuffix' : '$' ∉ suffix'.toList) (h : t.nested suffix = u.nested suffix') :
    t = u ∧ suffix = suffix' := by
  have hcut : ∀ (t : TypeName) (suffix : String), '$' ∉ suffix.toList →
      Text.splitLast? '$' (t.nested suffix).text.toList = some (t.text.toList, suffix.toList) :=
    fun t suffix hno => (Text.splitLast?_eq_some_iff _ _ _ _).mpr ⟨toList_nested t suffix, hno⟩
  have hsame := hcut t suffix hsuffix
  rw [h, hcut u suffix' hsuffix'] at hsame
  obtain ⟨htext, hname⟩ := Prod.mk.inj (Option.some.inj hsame)
  exact ⟨eq_of_text (String.toList_inj.mp htext.symm), String.toList_inj.mp hname.symm⟩

/-- No number is written with a dollar. -/
theorem dollar_not_mem_toString (n : Nat) : '$' ∉ (toString n).toList :=
  fun h => absurd (Text.isDigit_of_mem_toString h) (by decide)

/-- A numbered name is known by its class and its number. -/
theorem numbered_injective {i j : Nat} (h : t.nested (toString i) = u.nested (toString j)) :
    t = u ∧ i = j := by
  obtain ⟨houter, hnumber⟩ :=
    nested_injective (dollar_not_mem_toString i) (dollar_not_mem_toString j) h
  exact ⟨houter, Text.toString_injective hnumber⟩

/-- No binding class has a numbered name. -/
theorem bindingType_ne_numbered (t u : TypeName) (i : Nat) :
    bindingType t ≠ u.nested (toString i) := by
  intro h
  obtain ⟨-, hsuffix⟩ := nested_injective (by decide) (dollar_not_mem_toString i) h
  have hletter : 'S' ∈ (toString i).toList := hsuffix ▸ by decide
  exact absurd (Text.isDigit_of_mem_toString hletter) (by decide)

end TypeName

/-! ### Runs of a numbering -/

namespace Numbering

/-- The names that are handed out to classes that ask in turn. -/
def handOut (n : Numbering) : List TypeName → List TypeName
  | [] => []
  | outer :: rest => (n.next outer).1 :: (n.next outer).2.handOut rest

variable {n : Numbering} {outers : List TypeName}

/-- Nothing is counted at the beginning. -/
theorem count_empty (outer : TypeName) : Numbering.empty.count outer = 0 := rfl

/-- A name that is handed out has a number that the class has not handed out before. -/
theorem le_of_mem_handOut {outer : TypeName} {i : Nat}
    (h : outer.nested (toString i) ∈ n.handOut outers) : n.count outer ≤ i := by
  induction outers generalizing n with
  | nil => exact absurd h (by simp [handOut])
  | cons first rest ih =>
      rcases List.mem_cons.mp h with hfirst | hrest
      · obtain ⟨rfl, rfl⟩ := TypeName.numbered_injective hfirst
        exact Nat.le_refl _
      · have hle := ih hrest
        rw [count_next] at hle
        split at hle
        · rename_i heq
          rw [heq] at hle
          omega
        · exact hle

/-- No name is handed out twice. -/
theorem nodup_handOut (n : Numbering) (outers : List TypeName) : (n.handOut outers).Nodup := by
  induction outers generalizing n with
  | nil => exact List.nodup_nil
  | cons outer rest ih =>
      refine List.nodup_cons.mpr ⟨?_, ih _⟩
      -- Handing out the first name moves the counter beyond its number.
      intro hagain
      have hle := le_of_mem_handOut hagain
      rw [count_next, if_pos rfl] at hle
      omega

/-- The name handed out at a place has the number of names that its class had before. -/
theorem getElem?_handOut (n : Numbering) (outers : List TypeName) (i : Nat) :
    (n.handOut outers)[i]? = outers[i]?.map fun outer =>
      outer.nested (toString (n.count outer + (outers.take i).count outer)) := by
  induction outers generalizing n i with
  | nil => rfl
  | cons first rest ih =>
      cases i with
      | zero => rfl
      | succ i =>
          rw [handOut, List.getElem?_cons_succ, List.getElem?_cons_succ, ih, List.take_succ_cons]
          refine congrArg (fun f => Option.map f rest[i]?) (funext fun outer => ?_)
          rw [count_next, List.count_cons]
          by_cases heq : first = outer
          · subst heq
            simp only [beq_self_eq_true, if_true]
            congr 2
            omega
          · simp [heq]

end Numbering

/-! ### The classes of plans -/

namespace Plan

/-- The classes that are generated for a plan: the binding class and the listener classes. -/
def generatedTypes (p : Plan) : List TypeName :=
  p.binding :: p.listeners.map ListenerTarget.className

/-- The class is one of those generated for the target. -/
def Generates (target : TypeName) (t : TypeName) : Prop :=
  t = bindingType target ∨ ∃ i, t = listenerType target i

/-- A target is known by each class that is generated for it. -/
theorem target_eq_of_generates {target target' t : TypeName} (h : Generates target t)
    (h' : Generates target' t) : target = target' := by
  rcases h with rfl | ⟨i, rfl⟩ <;> rcases h' with h' | ⟨j, h'⟩
  · exact TypeName.bindingType_injective h'
  · exact absurd h' (TypeName.bindingType_ne_numbered _ _ _)
  · exact absurd h'.symm (TypeName.bindingType_ne_numbered _ _ _)
  · exact TypeName.bindingType_injective (TypeName.numbered_injective h').1

variable {r : Registry} {c : MarkedClass} {p : Plan}

/-- The listener classes of a plan are numbered from zero. -/
theorem map_className_of_build (h : build r c = .ok p) :
    p.listeners.map ListenerTarget.className
      = (List.range p.listeners.length).map (listenerType c.name) := by
  obtain ⟨d, bindings, rfl, -, hlays⟩ := exists_bindings_of_build h
  refine List.ext_getElem? fun i => ?_
  rw [List.getElem?_map, List.getElem?_map]
  by_cases hi : i < d.plan.listeners.length
  · obtain ⟨l, hl⟩ : ∃ l, d.plan.listeners[i]? = some l :=
      ⟨_, List.getElem?_eq_getElem hi⟩
    rw [hl, List.getElem?_range hi]
    rw [hlays.listeners_eq] at hl
    exact congrArg some (className_of_getElem?_listenersOf hl)
  · have hlength := Nat.le_of_not_lt hi
    rw [List.getElem?_eq_none hlength, List.getElem?_eq_none (by rwa [List.length_range])]
    rfl

/-- A plan has its binding class and one numbered class for each listener. -/
theorem generatedTypes_eq_of_build (h : build r c = .ok p) :
    p.generatedTypes
      = bindingType c.name :: (List.range p.listeners.length).map (listenerType c.name) := by
  obtain ⟨-, hbinding⟩ := target_eq_of_build h
  rw [generatedTypes, map_className_of_build h, hbinding]

/-- The classes of one plan have different names. -/
theorem nodup_generatedTypes_of_build (h : build r c = .ok p) : p.generatedTypes.Nodup := by
  rw [generatedTypes_eq_of_build h, List.nodup_cons]
  constructor
  · intro hmem
    obtain ⟨i, -, hi⟩ := List.mem_map.mp hmem
    exact TypeName.bindingType_ne_numbered _ _ _ hi.symm
  · refine List.nodup_range.map fun i j hij => ?_
    exact (TypeName.numbered_injective hij).2

/-- All of them are classes that are generated for the target. -/
theorem generates_of_mem_generatedTypes (h : build r c = .ok p) {t : TypeName}
    (ht : t ∈ p.generatedTypes) : Generates c.name t := by
  rw [generatedTypes_eq_of_build h] at ht
  rcases List.mem_cons.mp ht with rfl | ht
  · exact .inl rfl
  · obtain ⟨i, -, rfl⟩ := List.mem_map.mp ht
    exact .inr ⟨i, rfl⟩

/-- A plan of a list of classes is that of one of them. -/
theorem exists_class_of_mem {classes : List MarkedClass} {plans : List Plan}
    (h : List.Forall₂ (fun c p => build r c = .ok p) classes plans) (hp : p ∈ plans) :
    ∃ c ∈ classes, build r c = .ok p := by
  induction h with
  | nil => exact absurd hp (by simp)
  | @cons c q classes plans hbuild _ ih =>
      rcases List.mem_cons.mp hp with rfl | hp
      · exact ⟨c, List.mem_cons_self, hbuild⟩
      · obtain ⟨d, hd, hbuild'⟩ := ih hp
        exact ⟨d, List.mem_cons_of_mem _ hd, hbuild'⟩

/-- The classes that are generated for a list of classes with different names have different
names, and a numbering hands out different names to any classes that ask in turn: to each class
the numbers from zero. -/
theorem nodup_generatedTypes {classes : List MarkedClass} {plans : List Plan}
    (hbuild : List.Forall₂ (fun c p => build r c = .ok p) classes plans)
    (hnames : (classes.map MarkedClass.name).Nodup) :
    (plans.flatMap generatedTypes).Nodup
      ∧ ∀ outers : List TypeName, (Numbering.empty.handOut outers).Nodup
        ∧ ∀ i : Nat, (Numbering.empty.handOut outers)[i]? = outers[i]?.map fun outer =>
          outer.nested (toString ((outers.take i).count outer)) := by
  constructor
  · induction hbuild with
    | nil => exact List.nodup_nil
    | @cons c p classes plans hp hplans ih =>
        obtain ⟨hfirst, hrest⟩ := List.nodup_cons.mp hnames
        rw [List.flatMap_cons, List.nodup_append]
        refine ⟨nodup_generatedTypes_of_build hp, ih hrest, ?_⟩
        rintro t ht _ hlater rfl
        -- A class of a later plan is one of another target.
        obtain ⟨p', hp', hlater⟩ := List.mem_flatMap.mp hlater
        obtain ⟨c', hc', hbuild'⟩ := exists_class_of_mem hplans hp'
        have hsame : c.name = c'.name := target_eq_of_generates
          (generates_of_mem_generatedTypes hp ht) (generates_of_mem_generatedTypes hbuild' hlater)
        exact hfirst (hsame ▸ List.mem_map_of_mem hc')
  · intro outers
    refine ⟨Numbering.nodup_handOut _ _, fun i => ?_⟩
    rw [Numbering.getElem?_handOut]
    simp only [Numbering.count_empty, Nat.zero_add]

end Plan

/-! ### A target with the name of a generated class -/

namespace NumberedTarget

/-- A class without members that is named as the first listener class of another one. -/
def inner : MarkedClass := { name := listenerType SharedPlayer.sample.name 0 }

/-- The two classes have different names, and so have the classes that are generated for them. -/
theorem nodup_generatedTypes_player :
    ([SharedPlayer.sample, inner].map MarkedClass.name).Nodup
      ∧ ∃ plans, List.Forall₂ (fun c p => Plan.build SharedPlayer.registry c = .ok p)
          [SharedPlayer.sample, inner] plans
        ∧ (plans.flatMap Plan.generatedTypes).Nodup
        ∧ (plans.flatMap Plan.generatedTypes).map TypeName.text
          = ["com.example.Player$SentoBinding", "com.example.Player$SentoBinding$0",
            "com.example.Player$SentoBinding$0$SentoBinding"] := by
  have hnames : ([SharedPlayer.sample, inner].map MarkedClass.name).Nodup := by decide
  obtain ⟨p, hp⟩ := SharedPlayer.exists_build_sample
  have hinner : Plan.build SharedPlayer.registry inner = .ok (.empty inner.name) := rfl
  have hbuild : List.Forall₂ (fun c p => Plan.build SharedPlayer.registry c = .ok p)
      [SharedPlayer.sample, inner] [p, .empty inner.name] := .cons hp (.cons hinner .nil)
  have hlength : (Plan.build SharedPlayer.registry SharedPlayer.sample).toOption.map
      (fun p => p.listeners.length) = some 1 := by decide +kernel
  have hone : p.listeners.length = 1 := by
    rw [hp] at hlength
    exact Option.some.inj hlength
  refine ⟨hnames, _, hbuild, (Plan.nodup_generatedTypes hbuild hnames).1, ?_⟩
  rw [List.flatMap_cons, Plan.generatedTypes_eq_of_build hp, hone]
  decide

end NumberedTarget

end BindingCompiler
