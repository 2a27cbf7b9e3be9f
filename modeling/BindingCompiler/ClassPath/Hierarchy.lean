import BindingCompiler.ClassPath.Basic

/-!
# `BindingCompiler.ClassPath.Hierarchy`: supertypes and inherited methods

`hierarchy` walks from a type to all of its declared supertypes, level
by level; `superclasses` follows the parents only. Declarations may be
cyclic and may name types that are not declared: a class is visited
once and an unknown type is passed over, so both walks end when the
declared classes that are still unvisited run out
(`unvisited_append_lt`).

On top of the walks: the abstract methods a type leaves open
(`abstractMethods`) and the methods of one name that can be called on
it (`findMethods`).
-/

set_option autoImplicit false

namespace BindingCompiler

namespace ClassPath

/-- The number of declared classes that are not among `found`. -/
def unvisited (cp : ClassPath) (found : List ClassType) : Nat :=
  (cp.classes.entries.filter fun c => !found.any fun f => f.name == c.name).length

/-- A filter that drops one more element of a list keeps fewer of them. -/
theorem length_filter_lt {α : Type} {p q : α → Bool} {l : List α} (himp : ∀ x, q x → p x)
    {a : α} (ha : a ∈ l) (hp : p a = true) (hq : q a = false) :
    (l.filter q).length < (l.filter p).length := by
  have hle : ∀ m : List α, (m.filter q).length ≤ (m.filter p).length := by
    intro m
    induction m with
    | nil => simp
    | cons b m ih =>
        cases hqb : q b with
        | true => simp [hqb, himp b hqb, ih]
        | false => cases hpb : p b <;> simp [hqb, hpb] <;> omega
  induction l with
  | nil => exact absurd ha (by simp)
  | cons b l ih =>
      rcases List.mem_cons.mp ha with rfl | ha
      · have := hle l
        simp [hp, hq]
        omega
      · have := ih ha
        cases hqb : q b with
        | true => simp [hqb, himp b hqb]; omega
        | false => cases hpb : p b <;> simp [hqb, hpb] <;> omega

/-- Visiting one more declared class leaves fewer unvisited. -/
theorem unvisited_append_lt {cp : ClassPath} {found : List ClassType} {t : TypeName}
    {c : ClassType} (hc : cp.get? t = some c) (hnew : found.any (fun f => f.name == t) = false) :
    cp.unvisited (found ++ [c]) < cp.unvisited found := by
  obtain ⟨hmem, rfl⟩ := get?_eq_some_iff.mp hc
  refine length_filter_lt ?_ hmem (by simp [hnew]) (by simp)
  intro x hx
  simp only [List.any_append, Bool.not_or, Bool.and_eq_true] at hx
  exact hx.1

/-! ### The two walks -/

/-- Continues a walk that has found `found` and still has to see the types in `queue`. -/
def explore (cp : ClassPath) (queue : List TypeName) (found : List ClassType) : List ClassType :=
  match queue with
  | [] => found
  | t :: rest =>
    match _hseen : found.any (fun f => f.name == t), _hget : cp.get? t with
    | false, some c => explore cp (rest ++ c.supertypes) (found ++ [c])
    | _, _ => explore cp rest found
  termination_by (cp.unvisited found, queue.length)
  decreasing_by
    · exact Prod.Lex.left _ _ (unvisited_append_lt _hget _hseen)
    · exact Prod.Lex.right _ (by simp)

/-- A type and all of its declared supertypes, the most derived first. -/
def hierarchy (cp : ClassPath) (t : TypeName) : List ClassType := cp.explore [t] []

/-- Continues along the parents from `t`, after the classes in `chain`. -/
def climb (cp : ClassPath) (t : TypeName) (chain : List ClassType) : List ClassType :=
  match _hseen : chain.any (fun f => f.name == t), _hget : cp.get? t with
  | false, some c =>
    match c.parent? with
    | some parent => climb cp parent (chain ++ [c])
    | none => chain ++ [c]
  | _, _ => chain
  termination_by cp.unvisited chain
  decreasing_by exact unvisited_append_lt _hget _hseen

/-- A type and its declared parent classes, the most derived first. -/
def superclasses (cp : ClassPath) (t : TypeName) : List ClassType := cp.climb t []

/-! ### Methods -/

/-- The abstract methods that a type leaves without a body. The first
declaration of a signature decides, in the parent classes before the
interfaces: a body inherited from a class, however far up, implements
what an interface declares. -/
def abstractMethods (cp : ClassPath) (t : TypeName) : List Method :=
  let chain := cp.superclasses t
  let others := (cp.hierarchy t).filter fun c => !chain.any fun known => known.name == c.name
  (Method.firstOfEach [] ((chain ++ others).flatMap ClassType.methods)).filter Method.isAbstract

/-- The methods of one name that a type declares or inherits, one a signature. -/
def findMethods (cp : ClassPath) (t : TypeName) (name : String) : List Method :=
  Method.firstOfEach []
    ((cp.hierarchy t).flatMap fun c => c.methods.filter fun m => m.name == name)

end ClassPath

end BindingCompiler
