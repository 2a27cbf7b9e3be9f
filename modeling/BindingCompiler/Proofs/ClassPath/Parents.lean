import BindingCompiler.Proofs.ClassPath.Reachability

/-!
# `BindingCompiler.Proofs.ClassPath.Parents`: the chain of parent classes

`ClassPath.superclasses` climbs from a type to its parent, and on from there. It ends at a type
without a declared parent, and at a class that it has met before, for the declarations may be
cyclic. It is compared with `ancestor?`, which counts the steps and goes round a cycle forever.

* `getElem?_superclasses`: the classes of the chain stand at their number of steps.
* `exists_getElem?_superclasses`: every class that is met at all is met in the chain, after as
  many steps or fewer, so ending at a cycle loses none.
* `findSome?_superclasses_eq_some_iff`: the first class of the chain that has an answer is the
  one that has it after the fewest steps.
-/

set_option autoImplicit false

namespace BindingCompiler.ClassPath

/-- The class that is `n` steps above a type along the parents. -/
def ancestor? (cp : ClassPath) (t : TypeName) : Nat → Option ClassType
  | 0 => cp.get? t
  | n + 1 => (cp.ancestor? t n).bind fun c => c.parent?.bind cp.get?

section
variable {cp : ClassPath} {t : TypeName} {c : ClassType} {n : Nat}

/-- An ancestor is the parent of the ancestor before it. -/
theorem ancestor?_succ : cp.ancestor? t (n + 1)
    = (cp.ancestor? t n).bind fun c => c.parent?.bind cp.get? :=
  rfl

/-- A class above a type is the class of its name. -/
theorem get?_of_ancestor? (h : cp.ancestor? t n = some c) : cp.get? c.name = some c := by
  have hnamed : ∀ u, cp.get? u = some c → cp.get? c.name = some c :=
    fun u hu => name_of_get? hu ▸ hu
  cases n with
  | zero => exact hnamed t h
  | succ n =>
      obtain ⟨d, -, hd⟩ := Option.bind_eq_some_iff.mp h
      obtain ⟨parent, -, hget⟩ := Option.bind_eq_some_iff.mp hd
      exact hnamed parent hget

/-- A class above a type is reached from it. -/
theorem reaches_of_ancestor? (h : cp.ancestor? t n = some c) : cp.Reaches t c.name := by
  induction n generalizing c with
  | zero =>
      rw [name_of_get? h]
      exact .refl
  | succ n ih =>
      obtain ⟨d, hd, hparent⟩ := Option.bind_eq_some_iff.mp h
      obtain ⟨parent, hp, hget⟩ := Option.bind_eq_some_iff.mp hparent
      refine (ih hd).tail ⟨d, get?_of_ancestor? hd, ?_⟩
      simp [ClassType.supertypes, hp, name_of_get? hget]

/-- Where two classes above a type are the same, so are those above them. -/
theorem ancestor?_add_congr {i j : Nat} (h : cp.ancestor? t i = cp.ancestor? t j) (n : Nat) :
    cp.ancestor? t (i + n) = cp.ancestor? t (j + n) := by
  induction n with
  | zero => exact h
  | succ n ih => rw [← Nat.add_assoc, ← Nat.add_assoc, ancestor?_succ, ancestor?_succ, ih]

/-- Nothing stands above the end of the parents. -/
theorem ancestor?_add_of_none (h : cp.ancestor? t n = none) (m : Nat) :
    cp.ancestor? t (n + m) = none := by
  induction m with
  | zero => exact h
  | succ m ih => rw [← Nat.add_assoc, ancestor?_succ, ih, Option.bind_none]

end

/-! ### The climb -/

/-- The state of a climb from `start`: the chain holds the first classes above it, and the class
after them is that of the type that comes next. -/
structure Climbing (cp : ClassPath) (start next : TypeName) (chain : List ClassType) : Prop where
  places : ∀ n < chain.length, chain[n]? = cp.ancestor? start n
  next : cp.ancestor? start chain.length = cp.get? next

/-- The end of a climb: there is no further class above, or it is in the chain already. -/
structure Climbed (cp : ClassPath) (start : TypeName) (chain : List ClassType) : Prop where
  places : ∀ n < chain.length, chain[n]? = cp.ancestor? start n
  ends : ∀ c, cp.ancestor? start chain.length = some c → c ∈ chain

section
variable {cp : ClassPath} {start t : TypeName} {chain : List ClassType} {c : ClassType}

/-- The class that comes next takes the next place. -/
theorem Climbing.places_concat (h : Climbing cp start t chain) (hget : cp.get? t = some c) :
    ∀ n < (chain ++ [c]).length, (chain ++ [c])[n]? = cp.ancestor? start n := by
  intro n hn
  by_cases hlast : n < chain.length
  · rw [List.getElem?_append_left hlast]
    exact h.places n hlast
  · have heq : n = chain.length := by
      rw [List.length_append, List.length_singleton] at hn
      omega
    rw [heq, List.getElem?_concat_length, h.next, hget]

/-- The classes of the chain are declared. -/
theorem Climbing.declared (h : Climbing cp start t chain) :
    ∀ d ∈ chain, cp.get? d.name = some d := by
  intro d hd
  obtain ⟨n, hn⟩ := List.mem_iff_getElem?.mp hd
  obtain ⟨hlt, -⟩ := List.getElem?_eq_some_iff.mp hn
  exact get?_of_ancestor? ((h.places n hlt).symm.trans hn)

/-- A climb keeps its state until its end. -/
theorem Climbing.climbed (h : Climbing cp start t chain) :
    Climbed cp start (cp.climb t chain) := by
  -- Along the climb itself, which ends because the unvisited classes run out.
  induction t, chain using climb.induct cp with
  | case1 t chain c hseen hget parent hparent ih =>
      rw [climb_visit hseen hget, hparent]
      refine ih ⟨h.places_concat hget, ?_⟩
      rw [List.length_append, List.length_singleton, ancestor?_succ, h.next, hget,
        Option.bind_some, hparent, Option.bind_some]
  | case2 t chain c hseen hget hparent =>
      rw [climb_visit hseen hget, hparent]
      refine ⟨h.places_concat hget, ?_⟩
      intro d hd
      rw [List.length_append, List.length_singleton, ancestor?_succ, h.next, hget,
        Option.bind_some, hparent, Option.bind_none] at hd
      exact absurd hd (by simp)
  | case3 t chain hstop =>
      rw [climb_stop hstop]
      refine ⟨h.places, fun c hc => ?_⟩
      -- The climb ends at a declared class only if that is in the chain.
      rw [h.next] at hc
      cases hseen : chain.any fun f => f.name == t with
      | false => exact (hstop c hseen hc).elim
      | true => exact (any_name_iff h.declared hc).mp hseen

end

/-! ### The chain -/

section
variable {cp : ClassPath} {t : TypeName} {c : ClassType} {n : Nat}

/-- The climb from a type, at its end. -/
theorem climbed_superclasses (cp : ClassPath) (t : TypeName) :
    Climbed cp t (cp.superclasses t) :=
  Climbing.climbed ⟨by simp, rfl⟩

/-- The classes of the chain stand at their number of steps. -/
theorem getElem?_superclasses (h : n < (cp.superclasses t).length) :
    (cp.superclasses t)[n]? = cp.ancestor? t n :=
  (climbed_superclasses cp t).places n h

/-- A class above a type is in the chain, after as many steps or fewer. -/
theorem exists_getElem?_superclasses (h : cp.ancestor? t n = some c) :
    ∃ k ≤ n, (cp.superclasses t)[k]? = some c := by
  have hend := climbed_superclasses cp t
  induction n using Nat.strongRecOn with
  | ind n ih =>
      by_cases hlt : n < (cp.superclasses t).length
      · exact ⟨n, Nat.le_refl n, (hend.places n hlt).trans h⟩
      · -- The chain ends at a class that it has met: the way from there on is a shorter one.
        obtain ⟨m, rfl⟩ := Nat.exists_eq_add_of_le (Nat.le_of_not_lt hlt)
        cases hnext : cp.ancestor? t (cp.superclasses t).length with
        | none => exact absurd (h.symm.trans (ancestor?_add_of_none hnext m)) (by simp)
        | some d =>
            obtain ⟨j, hj⟩ := List.mem_iff_getElem?.mp (hend.ends d hnext)
            obtain ⟨hshort, -⟩ := List.getElem?_eq_some_iff.mp hj
            have hsame := ancestor?_add_congr
              (hnext.trans ((hend.places j hshort).symm.trans hj).symm) m
            obtain ⟨k, hk, hfound⟩ := ih (j + m) (by omega) (hsame.symm.trans h)
            exact ⟨k, by omega, hfound⟩

/-- The chain holds exactly the classes above a type. -/
theorem mem_superclasses_iff : c ∈ cp.superclasses t ↔ ∃ n, cp.ancestor? t n = some c := by
  constructor
  · intro hc
    obtain ⟨n, hn⟩ := List.mem_iff_getElem?.mp hc
    obtain ⟨hlt, -⟩ := List.getElem?_eq_some_iff.mp hn
    exact ⟨n, (getElem?_superclasses hlt).symm.trans hn⟩
  · rintro ⟨n, hn⟩
    obtain ⟨k, -, hk⟩ := exists_getElem?_superclasses hn
    exact List.mem_of_getElem? hk

/-- The first class of the chain that has an answer has it after the fewest steps. -/
theorem findSome?_superclasses_eq_some_iff {α : Type} {f : ClassType → Option α} {a : α} :
    (cp.superclasses t).findSome? f = some a
      ↔ ∃ n c, cp.ancestor? t n = some c ∧ f c = some a
        ∧ ∀ k < n, ∀ d, cp.ancestor? t k = some d → f d = none := by
  rw [List.findSome?_eq_some_iff]
  constructor
  · rintro ⟨before, c, after, hsplit, hc, hnone⟩
    have hplace : ∀ k ≤ before.length,
        cp.ancestor? t k = (before ++ c :: after)[k]? := by
      intro k hk
      rw [← hsplit]
      refine (getElem?_superclasses ?_).symm
      rw [hsplit, List.length_append, List.length_cons]
      omega
    refine ⟨before.length, c, ?_, hc, fun k hk d hd => ?_⟩
    · rw [hplace _ (Nat.le_refl _), List.getElem?_append_right (Nat.le_refl _), Nat.sub_self]
      rfl
    · rw [hplace k (Nat.le_of_lt hk), List.getElem?_append_left hk] at hd
      exact hnone d (List.mem_of_getElem? hd)
  · rintro ⟨n, c, hc, ha, hfewest⟩
    -- In the chain the class stands after no fewer steps, for before them nothing answers.
    obtain ⟨k, hk, hfound⟩ := exists_getElem?_superclasses hc
    obtain ⟨hlt, hget⟩ := List.getElem?_eq_some_iff.mp hfound
    rcases Nat.lt_or_eq_of_le hk with hless | rfl
    · have hnone := hfewest k hless c ((getElem?_superclasses hlt).symm.trans hfound)
      exact absurd (ha.symm.trans hnone) (by simp)
    refine ⟨(cp.superclasses t).take k, c, (cp.superclasses t).drop (k + 1), ?_, ha, ?_⟩
    · rw [← hget, ← List.drop_eq_getElem_cons hlt, List.take_append_drop]
    · intro d hd
      obtain ⟨j, hj, hd⟩ := List.mem_take_iff_getElem.mp hd
      refine hfewest j (by omega) d ?_
      rw [← getElem?_superclasses (by omega), ← hd]
      exact List.getElem?_eq_getElem (by omega)

end

end BindingCompiler.ClassPath
