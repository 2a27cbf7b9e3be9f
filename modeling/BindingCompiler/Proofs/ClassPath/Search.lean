import BindingCompiler.Proofs.ClassPath.Locality
import Mathlib.Data.List.Flatten
import Mathlib.Data.List.Perm.Subperm

/-!
# `BindingCompiler.Proofs.ClassPath.Search`: the walk to all supertypes ends

A step of `ClassPath.explore` takes one type from the queue, and only a
class that is visited for the first time puts types into it, namely its
supertypes. So the steps can be counted: one for the start, and one for
each supertype that a visited class names.

* `exploreWithin_eq`: this number of steps is enough, and no smaller one is.
* `mentions_hierarchy_le`: the number is bounded before the walk, by the
  supertypes that all declarations name together.
* `hierarchy_decides`: the walk ends, and what it finds decides which
  types a type inherits from, over declarations that are cyclic and
  supertypes that are not declared.
-/

set_option autoImplicit false

namespace BindingCompiler

namespace ClassPath

/-- The number of supertypes that some classes name. -/
def mentions (classes : List ClassType) : Nat := (classes.flatMap ClassType.supertypes).length

variable {cp : ClassPath} {t : TypeName} {rest : List TypeName} {found : List ClassType} {n : Nat}

/-- A class adds the supertypes that it names itself. -/
theorem mentions_concat (classes : List ClassType) (c : ClassType) :
    mentions (classes ++ [c]) = mentions classes + c.supertypes.length := by
  simp [mentions]

/-- What is found so far names no more than what is found in the end. -/
theorem mentions_le_explore (cp : ClassPath) (queue : List TypeName) (found : List ClassType) :
    mentions found ≤ mentions (cp.explore queue found) := by
  induction queue, found using explore.induct cp with
  | case1 found => exact Nat.le_of_eq (by rw [explore_nil])
  | case2 found t rest c hseen hget ih =>
      rw [mentions_concat] at ih
      rw [explore_visit hseen hget]
      omega
  | case3 found t rest hskip ih =>
      rw [explore_skip hskip]
      exact ih

/-! ### Counting the steps -/

/-- A step that visits a class. -/
theorem exploreWithin_visit {c : ClassType} (hseen : (found.any fun f => f.name == t) = false)
    (hget : cp.get? t = some c) :
    cp.exploreWithin (n + 1) (t :: rest) found
      = cp.exploreWithin n (rest ++ c.supertypes) (found ++ [c]) := by
  rw [exploreWithin, hseen, hget]

/-- A step that passes over a type. -/
theorem exploreWithin_skip
    (hskip : ∀ c, (found.any fun f => f.name == t) = false → cp.get? t = some c → False) :
    cp.exploreWithin (n + 1) (t :: rest) found = cp.exploreWithin n rest found := by
  rw [exploreWithin]
  split
  · rename_i c hseen hget
    exact (hskip c hseen hget).elim
  · rfl

/-- A search takes one step for each type in the queue and one for each
supertype that the classes it still visits name. With fewer it is given up. -/
theorem exploreWithin_eq (n : Nat) (queue : List TypeName) (found : List ClassType) :
    cp.exploreWithin n queue found
      = if queue.length + mentions (cp.explore queue found) ≤ n + mentions found then
          some (cp.explore queue found)
        else none := by
  -- Along the search itself, with any number of steps. What a class puts into the queue when it
  -- is visited is what it adds to the supertypes that have been named.
  induction queue, found using explore.induct cp generalizing n with
  | case1 found => cases n <;> simp [exploreWithin, explore_nil]
  | case2 found t rest c hseen hget ih =>
      cases n with
      | zero =>
          have hle := mentions_le_explore cp (t :: rest) found
          rw [if_neg (by simp only [List.length_cons]; omega), exploreWithin]
      | succ n =>
          rw [exploreWithin_visit hseen hget, ih, explore_visit hseen hget, mentions_concat,
            List.length_append, List.length_cons]
          congr 1
          apply propext
          omega
  | case3 found t rest hskip ih =>
      cases n with
      | zero =>
          have hle := mentions_le_explore cp (t :: rest) found
          rw [if_neg (by simp only [List.length_cons]; omega), exploreWithin]
      | succ n =>
          rw [exploreWithin_skip hskip, ih, explore_skip hskip, List.length_cons]
          congr 1
          apply propext
          omega

/-- The classes that a walk finds name no more supertypes than all declarations do. -/
theorem mentions_hierarchy_le (cp : ClassPath) (t : TypeName) :
    mentions (cp.hierarchy t) ≤ mentions cp.toList := by
  have hnodup : (cp.hierarchy t).Nodup := (nodup_hierarchy cp t).of_map
  have hdeclared : cp.hierarchy t ⊆ cp.toList := fun c hc =>
    (get?_eq_some_iff.mp (mem_hierarchy_iff.mp hc).1).1
  -- No class is found twice, so in another order the classes are a sublist of all.
  obtain ⟨classes, hperm, hsub⟩ := hnodup.subperm hdeclared
  have hle := (hsub.flatMap ClassType.supertypes).length_le
  rwa [(hperm.flatMap_right ClassType.supertypes).length_eq] at hle

/-- The walk from a type ends, within a number of steps that the
declarations bound, with the declared classes that the type reaches,
each of them once; and a type inherits from another one exactly if a
chain of at least one direct supertype leads to it. -/
theorem hierarchy_decides (cp : ClassPath) (t : TypeName) :
    (∀ n, cp.exploreWithin n [t] []
        = if 1 + mentions (cp.hierarchy t) ≤ n then some (cp.hierarchy t) else none)
      ∧ mentions (cp.hierarchy t) ≤ mentions cp.toList
      ∧ (∀ c, c ∈ cp.hierarchy t ↔ cp.get? c.name = some c ∧ cp.Reaches t c.name)
      ∧ ((cp.hierarchy t).map ClassType.name).Nodup
      ∧ ∀ p, t ≠ p → t.isReference = true → p.isReference = true → p ≠ .object →
        (cp.isSubclassOf t p = true ↔ Relation.TransGen cp.Extends t p) := by
  refine ⟨fun n => exploreWithin_eq n [t] [], mentions_hierarchy_le cp t,
    fun c => mem_hierarchy_iff, nodup_hierarchy cp t, fun p hne ht hp hobject => ?_⟩
  rw [TypeName.isReference, Bool.not_eq_true'] at ht hp
  simp [isSubclassOf_iff, hne, hobject, ht, hp]

end ClassPath

namespace OpenRow

/-- An interface that is not declared. -/
def named : TypeName := ⟨"com.example.Named"⟩

/-- A class that extends its own subclass. -/
def panel : ClassType :=
  { ClassType.plain ⟨"com.example.Panel"⟩ with parent? := some ⟨"com.example.Row"⟩ }

/-- Its subclass, which implements the interface. -/
def row : ClassType :=
  { ClassType.plain ⟨"com.example.Row"⟩ with parent? := some panel.name, interfaces := [named] }

/-- The two classes. -/
def classPath : ClassPath := ClassPath.empty.insertAll [panel, row]

/-- The walk goes once round the cycle. -/
theorem hierarchy_panel : classPath.hierarchy panel.name = [panel, row] :=
  ClassPath.explore_of_within 4 (by decide)

/-- The walk from a class on the cycle takes four steps. The class
inherits from the interface, which is not declared, and is no view. -/
theorem hierarchy_decides_panel :
    classPath.exploreWithin 4 [panel.name] [] = some [panel, row]
      ∧ classPath.exploreWithin 3 [panel.name] [] = none
      ∧ ClassPath.mentions [panel, row] ≤ ClassPath.mentions classPath.toList
      ∧ classPath.Reaches panel.name row.name
      ∧ classPath.get? named = none
      ∧ classPath.isSubclassOf panel.name named = true
      ∧ classPath.isSubclassOf panel.name .view = false := by
  obtain ⟨hsteps, hbound, hfinds, -, hinherits⟩ := ClassPath.hierarchy_decides classPath panel.name
  rw [hierarchy_panel] at hsteps hbound
  have hreference : panel.name.isReference = true := by decide
  have hchain : ∀ t, Relation.TransGen classPath.Extends panel.name t ↔
      ([panel, row].any fun c => c.supertypes.contains t) = true := fun t => by
    rw [← hierarchy_panel]
    exact ClassPath.any_hierarchy_iff.symm
  refine ⟨hsteps 4, hsteps 3, hbound, ?_, by decide, ?_, ?_⟩
  · exact ((hfinds row).mp (by rw [hierarchy_panel]; simp)).2
  · have hnamed := hinherits named (by decide) hreference (by decide) (by decide)
    exact hnamed.mpr ((hchain named).mpr (by decide))
  · have hview := hinherits .view (by decide) hreference (by decide) (by decide)
    rw [Bool.eq_false_iff, ne_eq, hview, hchain .view]
    decide

end OpenRow

end BindingCompiler
