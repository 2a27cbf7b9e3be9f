import BindingCompiler.Proofs.ClassPath.Methods
import BindingCompiler.Proofs.ClassPath.Parents

/-!
# `BindingCompiler.Proofs.ClassPath.OpenMethods`: methods without a body

`ClassPath.abstractMethods` lines up all methods that a type declares or inherits, those of the
chain of parent classes first, and keeps the first one of each signature. It reports the ones
among them that are abstract.

`leavesOpen_iff` brings this down to one declaration for each signature (`decision?`): the first
one of the chain, or else the first one of the walk to all supertypes. That the walk passes the
classes of the chain once more makes no difference, for then they do not declare the signature.

`resolvesClassesFirst_abstractMethods` says what follows whatever the interfaces declare and in
whatever order they are met. What the order does decide, among interfaces that disagree, is left
to `Proofs/ClassPath/DefaultMethods`.
-/

set_option autoImplicit false

namespace BindingCompiler

/-! ### Declarations of a signature -/

namespace ClassType

/-- The class has a declaration of the signature of its own. -/
def Declares (c : ClassType) (s : String × List TypeName) : Prop :=
  s ∈ c.methods.map Method.signature

instance (c : ClassType) (s : String × List TypeName) : Decidable (c.Declares s) :=
  inferInstanceAs (Decidable (s ∈ c.methods.map Method.signature))

/-- The first declaration of a signature in a class. -/
def declaration? (c : ClassType) (s : String × List TypeName) : Option Method :=
  c.methods.find? fun m => m.signature == s

variable {c : ClassType} {s : String × List TypeName} {m : Method}

/-- A class has no first declaration of a signature exactly if it declares none. -/
theorem declaration?_eq_none_iff : c.declaration? s = none ↔ ¬ c.Declares s := by
  simp [declaration?, Declares]

/-- It has one exactly if it declares the signature. -/
theorem declaration?_isSome_iff : (c.declaration? s).isSome = true ↔ c.Declares s := by
  rw [Option.isSome_iff_ne_none, ne_eq, declaration?_eq_none_iff, Classical.not_not]

/-- The first declaration is one of the methods, and has the signature. -/
theorem mem_of_declaration? (h : c.declaration? s = some m) :
    m ∈ c.methods ∧ m.signature = s :=
  ⟨List.mem_of_find?_eq_some h, by simpa using List.find?_some h⟩

end ClassType

/-- Elements that have no answer can be filtered out before the first answer is looked for. -/
theorem findSome?_filter_of_none {α β : Type} {q : α → Bool} {f : α → Option β} {l : List α}
    (h : ∀ a ∈ l, q a = false → f a = none) : (l.filter q).findSome? f = l.findSome? f := by
  induction l with
  | nil => rfl
  | cons a rest ih =>
      have hrest := ih fun b hb => h b (List.mem_cons_of_mem _ hb)
      cases hq : q a with
      | true => rw [List.filter_cons_of_pos hq, List.findSome?_cons, List.findSome?_cons, hrest]
      | false =>
          rw [List.filter_cons_of_neg (by simp [hq]), List.findSome?_cons,
            h a List.mem_cons_self hq, hrest]

namespace ClassPath

variable {cp : ClassPath} {t : TypeName} {s : String × List TypeName} {m : Method}

/-! ### The declaration that decides -/

/-- A method of the signature is reported as one without a body. -/
def LeavesOpen (cp : ClassPath) (t : TypeName) (s : String × List TypeName) : Prop :=
  s ∈ (cp.abstractMethods t).map Method.signature

/-- The declaration of a signature that decides whether there is a body: the first one in the
chain of parent classes, or else the first one in the walk to all supertypes. -/
def decision? (cp : ClassPath) (t : TypeName) (s : String × List TypeName) : Option Method :=
  ((cp.superclasses t).findSome? fun c => c.declaration? s).or
    ((cp.hierarchy t).findSome? fun c => c.declaration? s)

/-- Among all methods in line, the first one of a signature is the one that decides. -/
theorem find?_methods_eq_decision? (cp : ClassPath) (t : TypeName) (s : String × List TypeName) :
    (((cp.superclasses t ++ (cp.hierarchy t).filter fun c =>
        !(cp.superclasses t).any fun known => known.name == c.name).flatMap
          ClassType.methods).find? fun m => m.signature == s) = cp.decision? t s := by
  rw [List.find?_flatMap, List.findSome?_append]
  show ((cp.superclasses t).findSome? fun c => c.declaration? s).or
    (((cp.hierarchy t).filter _).findSome? fun c => c.declaration? s) = _
  rw [decision?]
  cases hchain : (cp.superclasses t).findSome? fun c => c.declaration? s with
  | some m => rfl
  | none =>
      rw [Option.none_or, Option.none_or]
      refine findSome?_filter_of_none fun c hc hknown => ?_
      -- What the filter takes out is a class of the chain, and none of these has an answer.
      have hdeclared : ∀ d ∈ cp.superclasses t, cp.get? d.name = some d := by
        intro d hd
        obtain ⟨n, hn⟩ := mem_superclasses_iff.mp hd
        exact get?_of_ancestor? hn
      have hmem := (any_name_iff hdeclared (mem_hierarchy_iff.mp hc).1).mp (by simpa using hknown)
      exact List.findSome?_eq_none_iff.mp hchain c hmem

/-- An abstract method is reported if it is the declaration that decides for its signature. -/
theorem mem_abstractMethods_iff :
    m ∈ cp.abstractMethods t ↔ cp.decision? t m.signature = some m ∧ m.isAbstract = true := by
  rw [abstractMethods, List.mem_filter, Method.mem_firstOfEach_iff, find?_methods_eq_decision?]
  simp

/-- The declaration that decides for a signature is one that the type has. -/
theorem hasMethod_of_decision? (h : cp.decision? t s = some m) :
    cp.HasMethod t m ∧ m.signature = s := by
  rcases Option.or_eq_some_iff.mp h with hchain | ⟨-, hwalk⟩
  · obtain ⟨n, c, hc, hm, -⟩ := findSome?_superclasses_eq_some_iff.mp hchain
    obtain ⟨hmem, hs⟩ := ClassType.mem_of_declaration? hm
    exact ⟨⟨c, get?_of_ancestor? hc, reaches_of_ancestor? hc, hmem⟩, hs⟩
  · obtain ⟨c, hc, hm⟩ := List.exists_of_findSome?_eq_some hwalk
    obtain ⟨hmem, hs⟩ := ClassType.mem_of_declaration? hm
    exact ⟨hasMethod_iff.mpr ⟨c, hc, hmem⟩, hs⟩

/-- A signature is reported if the declaration that decides for it is abstract. -/
theorem leavesOpen_iff :
    cp.LeavesOpen t s ↔ ∃ m, cp.decision? t s = some m ∧ m.isAbstract = true := by
  rw [LeavesOpen, List.mem_map]
  constructor
  · rintro ⟨m, hm, rfl⟩
    exact ⟨m, mem_abstractMethods_iff.mp hm⟩
  · rintro ⟨m, hm, habstract⟩
    have hs := (hasMethod_of_decision? hm).2
    exact ⟨m, mem_abstractMethods_iff.mpr ⟨hs.symm ▸ hm, habstract⟩, hs⟩

/-- There is a declaration that decides for every signature that the type has. -/
theorem exists_decision? (h : cp.HasMethod t m) : ∃ d, cp.decision? t m.signature = some d := by
  obtain ⟨c, hc, hm⟩ := hasMethod_iff.mp h
  have hwalk : ((cp.hierarchy t).findSome? fun c => c.declaration? m.signature).isSome = true := by
    rw [List.findSome?_isSome_iff]
    exact ⟨c, hc, ClassType.declaration?_isSome_iff.mpr (List.mem_map_of_mem hm)⟩
  obtain ⟨d, hd⟩ := Option.isSome_iff_exists.mp hwalk
  cases hchain : (cp.superclasses t).findSome? fun c => c.declaration? m.signature with
  | some e => exact ⟨e, by rw [decision?, hchain, Option.some_or]⟩
  | none => exact ⟨d, by rw [decision?, hchain, Option.none_or, hd]⟩

/-! ### Classes before interfaces -/

/-- The methods are those that a type leaves without a body, as far as the chain of its parent
classes settles it or nothing else does. -/
structure ResolvesClassesFirst (cp : ClassPath) (t : TypeName) (methods : List Method) :
    Prop where
  isAbstract : ∀ m ∈ methods, m.isAbstract = true
  nodup : (methods.map Method.signature).Nodup
  /-- If a class of the chain declares a signature, the first declaration in the nearest such
  class decides, whatever the interfaces declare. -/
  ofClass : ∀ s, (∃ n c, cp.ancestor? t n = some c ∧ c.Declares s) →
    ∃ n c m, cp.ancestor? t n = some c ∧ c.declaration? s = some m
      ∧ (∀ k < n, ∀ d, cp.ancestor? t k = some d → ¬ d.Declares s)
      ∧ (s ∈ methods.map Method.signature ↔ m.isAbstract = true)
  /-- If nothing that the type inherits from gives a signature a body, it is without one, provided
  that it is declared at all. So it is with a signature of interfaces only, if none has a body
  for it. -/
  ofAbstract : ∀ s, (∀ m, cp.HasMethod t m → m.signature = s → m.isAbstract = true) →
    (s ∈ methods.map Method.signature ↔ ∃ m, cp.HasMethod t m ∧ m.signature = s)

/-- The chain of parent classes is resolved before any interface, over cyclic declarations too. -/
theorem resolvesClassesFirst_abstractMethods (cp : ClassPath) (t : TypeName) :
    cp.ResolvesClassesFirst t (cp.abstractMethods t) where
  isAbstract m hm := (mem_abstractMethods_iff.mp hm).2
  nodup := nodup_abstractMethods cp t
  ofClass s hdeclared := by
    obtain ⟨i, d, hd, hs⟩ := hdeclared
    have hsome : ((cp.superclasses t).findSome? fun c => c.declaration? s).isSome = true := by
      rw [List.findSome?_isSome_iff]
      exact ⟨d, mem_superclasses_iff.mpr ⟨i, hd⟩, ClassType.declaration?_isSome_iff.mpr hs⟩
    obtain ⟨m, hchain⟩ := Option.isSome_iff_exists.mp hsome
    obtain ⟨n, c, hc, hm, hnearest⟩ := findSome?_superclasses_eq_some_iff.mp hchain
    have hdecision : cp.decision? t s = some m := by rw [decision?, hchain, Option.some_or]
    refine ⟨n, c, m, hc, hm, fun k hk e he => ?_, ?_⟩
    · exact ClassType.declaration?_eq_none_iff.mp (hnearest k hk e he)
    · refine leavesOpen_iff.trans ?_
      rw [hdecision]
      simp
  ofAbstract s hothers := by
    refine leavesOpen_iff.trans ⟨?_, ?_⟩
    · rintro ⟨m, hm, -⟩
      exact ⟨m, hasMethod_of_decision? hm⟩
    · rintro ⟨m, hm, rfl⟩
      obtain ⟨d, hd⟩ := exists_decision? hm
      obtain ⟨hhas, hs⟩ := hasMethod_of_decision? hd
      exact ⟨d, hd, hothers d hhas hs⟩

end ClassPath

end BindingCompiler
