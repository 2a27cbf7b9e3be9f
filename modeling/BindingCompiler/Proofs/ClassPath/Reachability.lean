import BindingCompiler.ClassPath.Subtyping
import Mathlib.Logic.Relation

/-!
# `BindingCompiler.Proofs.ClassPath.Reachability`: the walk to all supertypes

`ClassPath.hierarchy` is a search with a queue over declarations that
may be cyclic and may name types that are not declared. It is compared
with the relation `Reaches`, a chain of direct supertypes that leaves
declared types only.

* `explored`: the invariant `Exploring` of the search, kept to its end.
* `mem_hierarchy_iff`: the search finds exactly the declared classes
  that the type reaches.
* `nodup_hierarchy`: it finds each of them once.
* `isSubclassOf_iff`: between distinct reference types, and apart from
  `java.lang.Object`, being a subclass is a chain of at least one step.
-/

set_option autoImplicit false

namespace BindingCompiler.ClassPath

/-- `u` is a direct supertype of the declared type `t`. -/
def Extends (cp : ClassPath) (t u : TypeName) : Prop :=
  ∃ c, cp.get? t = some c ∧ u ∈ c.supertypes

/-- A chain of direct supertypes leads from `t` to `u`. -/
def Reaches (cp : ClassPath) : TypeName → TypeName → Prop :=
  Relation.ReflTransGen cp.Extends

/-- The name of a declared class is the one it is declared under. -/
theorem name_of_get? {cp : ClassPath} {t : TypeName} {c : ClassType} (h : cp.get? t = some c) :
    c.name = t :=
  (get?_eq_some_iff.mp h).2

/-- A declared class is one of some declared classes exactly if one of them has its name. -/
theorem any_name_iff {cp : ClassPath} {classes : List ClassType} {t : TypeName} {c : ClassType}
    (hdeclared : ∀ d ∈ classes, cp.get? d.name = some d) (hget : cp.get? t = some c) :
    (classes.any fun d => d.name == t) = true ↔ c ∈ classes := by
  rw [List.any_eq_true]
  constructor
  · rintro ⟨d, hd, hname⟩
    have hsame := hdeclared d hd
    rw [beq_iff_eq.mp hname, hget] at hsame
    cases hsame
    exact hd
  · intro hc
    exact ⟨c, hc, beq_iff_eq.mpr (name_of_get? hget)⟩

/-! ### The steps of the search -/

section
variable {cp : ClassPath} {t : TypeName} {rest : List TypeName} {found : List ClassType}

/-- A declared class that is not found yet is visited. -/
theorem explore_visit {c : ClassType} (hseen : (found.any fun f => f.name == t) = false)
    (hget : cp.get? t = some c) :
    cp.explore (t :: rest) found = cp.explore (rest ++ c.supertypes) (found ++ [c]) := by
  rw [explore]
  split
  · rename_i d _ hd
    rw [hget] at hd
    cases hd
    rfl
  · rename_i hno
    exact absurd hget (hno c hseen)

/-- A class that is found already is passed over. -/
theorem explore_seen (hseen : (found.any fun f => f.name == t) = true) :
    cp.explore (t :: rest) found = cp.explore rest found := by
  rw [explore]
  split
  · rename_i h _
    exact absurd (hseen.symm.trans h) (by decide)
  · rfl

/-- A type that is not declared is passed over. -/
theorem explore_undeclared (hget : cp.get? t = none) :
    cp.explore (t :: rest) found = cp.explore rest found := by
  rw [explore]
  split
  · rename_i h
    exact absurd (hget.symm.trans h) (by simp)
  · rfl

/-- A type that is found already, or not declared, is passed over. -/
theorem explore_skip
    (hskip : ∀ c, (found.any fun f => f.name == t) = false → cp.get? t = some c → False) :
    cp.explore (t :: rest) found = cp.explore rest found := by
  rw [explore]
  split
  · rename_i c hseen hget
    exact (hskip c hseen hget).elim
  · rfl

/-- The search ends with its queue. -/
theorem explore_nil : cp.explore [] found = found := by
  rw [explore]

end

/-- The search, given up after a number of steps. -/
def exploreWithin (cp : ClassPath) : Nat → List TypeName → List ClassType → Option (List ClassType)
  | _, [], found => some found
  | 0, _ :: _, _ => none
  | n + 1, t :: rest, found =>
    match found.any (fun f => f.name == t), cp.get? t with
    | false, some c => cp.exploreWithin n (rest ++ c.supertypes) (found ++ [c])
    | _, _ => cp.exploreWithin n rest found

/-- A search that ends within a number of steps finds what the search finds. -/
theorem explore_of_within {cp : ClassPath} {queue : List TypeName}
    {found result : List ClassType} (n : Nat) (h : cp.exploreWithin n queue found = some result) :
    cp.explore queue found = result := by
  induction n generalizing queue found with
  | zero =>
      cases queue with
      | nil =>
          cases h
          exact explore_nil
      | cons t rest => exact absurd h (by simp [exploreWithin])
  | succ n ih =>
      cases queue with
      | nil =>
          cases h
          exact explore_nil
      | cons t rest =>
          rw [exploreWithin] at h
          split at h
          · rename_i hseen hget
            rw [explore_visit hseen hget]
            exact ih h
          · rename_i hskip
            cases hget : cp.get? t with
            | none =>
                rw [explore_undeclared hget]
                exact ih h
            | some c =>
                cases hseen : found.any fun f => f.name == t with
                | false => exact (hskip c hseen hget).elim
                | true =>
                    rw [explore_seen hseen]
                    exact ih h

/-- The walk along the parents adds a declared class that is not in the
chain yet, and goes on at its parent. -/
theorem climb_visit {cp : ClassPath} {t : TypeName} {chain : List ClassType} {c : ClassType}
    (hseen : (chain.any fun f => f.name == t) = false)
    (hget : cp.get? t = some c) :
    cp.climb t chain = match c.parent? with
      | some parent => cp.climb parent (chain ++ [c])
      | none => chain ++ [c] := by
  rw [climb]
  split
  · rename_i d _ hd
    rw [hget] at hd
    cases hd
    rfl
  · rename_i hno
    exact (hno c hseen hget).elim

/-- The walk along the parents ends where it can add nothing. -/
theorem climb_stop {cp : ClassPath} {t : TypeName} {chain : List ClassType}
    (hstop : ∀ c, (chain.any fun f => f.name == t) = false → cp.get? t = some c → False) :
    cp.climb t chain = chain := by
  rw [climb]
  split
  · rename_i c hseen hget
    exact (hstop c hseen hget).elim
  · rfl

/-! ### What the search keeps -/

/-- The state of a search from `start`: what it has found are declared
classes that are reached, each once, and their declared supertypes are
found or wait in the queue. -/
structure Exploring (cp : ClassPath) (start : TypeName) (queue : List TypeName)
    (found : List ClassType) : Prop where
  declared : ∀ c ∈ found, cp.get? c.name = some c
  reached : ∀ c ∈ found, cp.Reaches start c.name
  waiting : ∀ t ∈ queue, cp.Reaches start t
  started : ∀ c, cp.get? start = some c → c ∈ found ∨ start ∈ queue
  closed : ∀ c ∈ found, ∀ t ∈ c.supertypes, ∀ d, cp.get? t = some d → d ∈ found ∨ t ∈ queue
  distinct : (found.map ClassType.name).Nodup

namespace Exploring

variable {cp : ClassPath} {start t : TypeName} {rest : List TypeName} {found : List ClassType}

/-- At the start nothing is found. -/
theorem initial (cp : ClassPath) (start : TypeName) : Exploring cp start [start] [] where
  declared := by simp
  reached := by simp
  waiting := by simp [Reaches, Relation.ReflTransGen.refl]
  started := by simp
  closed := by simp
  distinct := by simp

/-- Visiting a class keeps the invariant. -/
theorem visit {c : ClassType} (h : Exploring cp start (t :: rest) found)
    (hseen : (found.any fun f => f.name == t) = false) (hget : cp.get? t = some c) :
    Exploring cp start (rest ++ c.supertypes) (found ++ [c]) := by
  have hname : c.name = t := name_of_get? hget
  have ht : cp.Reaches start t := h.waiting t (by simp)
  refine ⟨?_, ?_, ?_, ?_, ?_, ?_⟩
  · intro d hd
    rcases List.mem_append.mp hd with hd | hd
    · exact h.declared d hd
    · rw [List.mem_singleton.mp hd, hname]
      exact hget
  · intro d hd
    rcases List.mem_append.mp hd with hd | hd
    · exact h.reached d hd
    · rw [List.mem_singleton.mp hd, hname]
      exact ht
  · intro u hu
    rcases List.mem_append.mp hu with hu | hu
    · exact h.waiting u (List.mem_cons_of_mem _ hu)
    · exact ht.tail ⟨c, hget, hu⟩
  · intro d hd
    rcases h.started d hd with hf | hq
    · exact .inl (List.mem_append_left _ hf)
    · rcases List.mem_cons.mp hq with rfl | hq
      · rw [hget] at hd
        cases hd
        exact .inl (by simp)
      · exact .inr (List.mem_append_left _ hq)
  · -- The supertypes of the class wait at the end of the queue; of the
    -- older classes only `t` itself has left it, and that is found now.
    intro d hd u hu e he
    rcases List.mem_append.mp hd with hd | hd
    · rcases h.closed d hd u hu e he with hf | hq
      · exact .inl (List.mem_append_left _ hf)
      · rcases List.mem_cons.mp hq with rfl | hq
        · rw [hget] at he
          cases he
          exact .inl (by simp)
        · exact .inr (List.mem_append_left _ hq)
    · rw [List.mem_singleton.mp hd] at hu
      exact .inr (List.mem_append_right _ hu)
  · rw [List.map_append, List.nodup_append]
    refine ⟨h.distinct, by simp, ?_⟩
    intro a ha b hb heq
    obtain ⟨f, hf, rfl⟩ := List.mem_map.mp ha
    simp only [List.map_cons, List.map_nil, List.mem_singleton] at hb
    have := List.any_eq_false.mp hseen f hf
    simp [heq, hb, hname] at this

/-- Passing over a type that is found already, or not declared, keeps the invariant. -/
theorem pass (h : Exploring cp start (t :: rest) found)
    (hskip : ∀ c, cp.get? t = some c → c ∈ found) : Exploring cp start rest found where
  declared := h.declared
  reached := h.reached
  waiting u hu := h.waiting u (List.mem_cons_of_mem _ hu)
  started c hc := by
    rcases h.started c hc with hf | hq
    · exact .inl hf
    · rcases List.mem_cons.mp hq with rfl | hq
      · exact .inl (hskip c hc)
      · exact .inr hq
  closed d hd u hu e he := by
    rcases h.closed d hd u hu e he with hf | hq
    · exact .inl hf
    · rcases List.mem_cons.mp hq with rfl | hq
      · exact .inl (hskip e he)
      · exact .inr hq
  distinct := h.distinct

/-- A declared class whose name is among the found ones is found. -/
theorem mem_of_seen (h : Exploring cp start (t :: rest) found)
    (hseen : (found.any fun f => f.name == t) = true) {c : ClassType} (hget : cp.get? t = some c) :
    c ∈ found :=
  (any_name_iff h.declared hget).mp hseen

end Exploring

/-- The search keeps its invariant until the queue is empty. -/
theorem explored {cp : ClassPath} {start : TypeName} (queue : List TypeName)
    (found : List ClassType) (h : Exploring cp start queue found) :
    Exploring cp start [] (cp.explore queue found) := by
  -- Along the search itself, which ends because the unvisited classes run out.
  induction queue, found using explore.induct cp with
  | case1 found =>
      rw [explore_nil]
      exact h
  | case2 found t rest c hseen hget ih =>
      rw [explore_visit hseen hget]
      exact ih (h.visit hseen hget)
  | case3 found t rest hskip ih =>
      cases hget : cp.get? t with
      | none =>
          rw [explore_undeclared hget]
          exact ih (h.pass (by simp [hget]))
      | some c =>
          cases hseen : found.any fun f => f.name == t with
          | false => exact (hskip c hseen hget).elim
          | true =>
              rw [explore_seen hseen]
              refine ih (h.pass fun d hd => ?_)
              exact h.mem_of_seen hseen hd

/-! ### What the search finds -/

section
variable {cp : ClassPath} {t u : TypeName} {c : ClassType}

/-- The search from a type, at its end. -/
theorem exploring_hierarchy (cp : ClassPath) (t : TypeName) :
    Exploring cp t [] (cp.hierarchy t) :=
  explored [t] [] (.initial cp t)

/-- The search finds exactly the declared classes that the type reaches. -/
theorem mem_hierarchy_iff :
    c ∈ cp.hierarchy t ↔ cp.get? c.name = some c ∧ cp.Reaches t c.name := by
  have hend := exploring_hierarchy cp t
  constructor
  · intro hc
    exact ⟨hend.declared c hc, hend.reached c hc⟩
  · rintro ⟨hget, hreach⟩
    -- Every declared class on a chain of supertypes is found, from the start on.
    suffices hall : ∀ v, cp.Reaches t v → ∀ d, cp.get? v = some d → d ∈ cp.hierarchy t from
      hall _ hreach c hget
    intro v hv
    induction hv with
    | refl =>
        intro d hd
        simpa using hend.started d hd
    | tail _ hstep ih =>
        intro d hd
        obtain ⟨b, hb, hmem⟩ := hstep
        simpa using hend.closed b (ih b hb) _ hmem d hd

/-- The search finds no name twice. -/
theorem nodup_hierarchy (cp : ClassPath) (t : TypeName) :
    ((cp.hierarchy t).map ClassType.name).Nodup :=
  (exploring_hierarchy cp t).distinct

/-- A type without supertypes is all that it reaches. -/
theorem hierarchy_of_supertypes_nil (hget : cp.get? t = some c) (hroot : c.supertypes = []) :
    cp.hierarchy t = [c] := by
  rw [hierarchy, explore_visit (by simp) hget, hroot, List.append_nil, explore_nil, List.nil_append]

/-- A type without a parent is the last of its line. -/
theorem superclasses_of_parent_none (hget : cp.get? t = some c) (hroot : c.parent? = none) :
    cp.superclasses t = [c] := by
  rw [superclasses, climb_visit (by simp) hget, hroot, List.nil_append]

/-- A class of the search names `u` as a supertype exactly when a chain
of at least one step leads to `u`. -/
theorem any_hierarchy_iff :
    ((cp.hierarchy t).any fun c => c.supertypes.contains u) = true
      ↔ Relation.TransGen cp.Extends t u := by
  rw [List.any_eq_true, Relation.TransGen.tail'_iff]
  constructor
  · rintro ⟨c, hc, hu⟩
    obtain ⟨hget, hreach⟩ := mem_hierarchy_iff.mp hc
    exact ⟨c.name, hreach, c, hget, by simpa using hu⟩
  · rintro ⟨v, hreach, c, hget, hu⟩
    obtain rfl := name_of_get? hget
    exact ⟨c, mem_hierarchy_iff.mpr ⟨hget, hreach⟩, by simpa using hu⟩

/-- A subclass is the type itself, or else a reference type that is
asked about `java.lang.Object` or reaches the parent. -/
theorem isSubclassOf_iff :
    cp.isSubclassOf t u = true
      ↔ t = u ∨ t.isPrimitive = false ∧ u.isPrimitive = false
        ∧ (u = .object ∨ Relation.TransGen cp.Extends t u) := by
  unfold isSubclassOf
  by_cases heq : t = u
  · simp [heq]
  · rw [if_neg heq, ← any_hierarchy_iff]
    cases ht : t.isPrimitive <;> cases hu : u.isPrimitive <;> simp [heq]

end

end BindingCompiler.ClassPath
