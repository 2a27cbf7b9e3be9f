import BindingCompiler.Proofs.Marker.Arguments
import Mathlib.Data.List.Induction

/-!
# `BindingCompiler.Proofs.Marker.Turns`: arguments served one after the other

`ClassPath.matchArguments` keeps a list of the parameters that are left
and takes out of it what an argument is given. The rule it follows can
be said without that list: the arguments come one after the other, and
each takes the first parameter that can be cast to it and that no
argument before it has taken (`InTurn`).

* `InTurn.unique`: the rule leaves no choice.
* `matchArguments_inTurn`: the search follows the rule, as far as it
  goes. Where it ends early, it ends at an argument to which no
  parameter can be cast that the arguments before it leave.
-/

set_option autoImplicit false

namespace BindingCompiler.ClassPath

/-- `i` is the first parameter that can be cast to the argument and is not taken. -/
structure Next (cp : ClassPath) (parameters : List TypeName) (taken : List Nat)
    (argument : TypeName) (i : Nat) : Prop where
  unused : i ∉ taken
  fits : cp.Fits parameters i argument
  le : ∀ j, j ∉ taken → cp.Fits parameters j argument → i ≤ j

/-- The arguments take these parameters, each the first that can be cast
to it and that no argument before it has taken. -/
inductive InTurn (cp : ClassPath) (parameters : List TypeName) : List TypeName → List Nat → Prop
  | nil : InTurn cp parameters [] []
  | concat {arguments : List TypeName} {taken : List Nat} {argument : TypeName} {i : Nat}
      (before : InTurn cp parameters arguments taken)
      (next : cp.Next parameters taken argument i) :
      InTurn cp parameters (arguments ++ [argument]) (taken ++ [i])

/-- After the arguments before it have been served, an argument finds a
parameter that can be cast to it and is not taken. -/
def Finds (cp : ClassPath) (parameters before : List TypeName) (argument : TypeName) : Prop :=
  ∃ taken, cp.InTurn parameters before taken ∧ ∃ i, i ∉ taken ∧ cp.Fits parameters i argument

variable {cp : ClassPath} {parameters arguments before rest : List TypeName} {argument : TypeName}
  {taken other free chosen : List Nat} {i j : Nat}

/-! ### The rule -/

/-- There is one next parameter at most. -/
theorem Next.unique (hi : cp.Next parameters taken argument i)
    (hj : cp.Next parameters taken argument j) : i = j :=
  Nat.le_antisymm (hi.le j hj.unused hj.fits) (hj.le i hi.unused hi.fits)

/-- The last argument takes what is next after the others. -/
theorem inTurn_concat_iff :
    cp.InTurn parameters (arguments ++ [argument]) chosen
      ↔ ∃ taken i, chosen = taken ++ [i] ∧ cp.InTurn parameters arguments taken
        ∧ cp.Next parameters taken argument i := by
  constructor
  · intro h
    generalize hlist : arguments ++ [argument] = all at h
    cases h with
    | nil => exact absurd hlist (by simp)
    | @concat _ taken _ i hbefore hnext =>
        obtain ⟨rfl, hlast⟩ := List.append_inj' hlist rfl
        cases hlast
        exact ⟨taken, i, rfl, hbefore, hnext⟩
  · rintro ⟨taken, i, rfl, hbefore, hnext⟩
    exact .concat hbefore hnext

/-- The parameters that arguments take are determined. -/
theorem InTurn.unique (h : cp.InTurn parameters arguments taken)
    (hother : cp.InTurn parameters arguments other) : taken = other := by
  induction h generalizing other with
  | nil =>
      generalize hlist : ([] : List TypeName) = all at hother
      cases hother with
      | nil => rfl
      | concat => exact absurd hlist (by simp)
  | concat _ hnext ih =>
      obtain ⟨taken', j, rfl, hbefore, hj⟩ := inTurn_concat_iff.mp hother
      obtain rfl := ih hbefore
      rw [hnext.unique hj]

/-- What some arguments take does not depend on those after them. -/
theorem InTurn.of_append {later : List TypeName}
    (h : cp.InTurn parameters (before ++ later) chosen) :
    ∃ taken, cp.InTurn parameters before taken := by
  induction later using List.reverseRecOn generalizing chosen with
  | nil => exact ⟨chosen, by rwa [List.append_nil] at h⟩
  | append_singleton later argument ih =>
      rw [← List.append_assoc] at h
      obtain ⟨_, _, -, hlater, -⟩ := inTurn_concat_iff.mp h
      exact ih hlater

/-- Every argument that is served has found something. -/
theorem InTurn.finds (h : cp.InTurn parameters (before ++ argument :: rest) chosen) :
    cp.Finds parameters before argument := by
  rw [List.append_cons] at h
  obtain ⟨all, hall⟩ := h.of_append
  obtain ⟨taken, i, -, hbefore, hnext⟩ := inTurn_concat_iff.mp hall
  exact ⟨taken, hbefore, i, hnext.unused, hnext.fits⟩

/-- So every argument that is served finds something after those before it. -/
theorem InTurn.finds_getElem (h : cp.InTurn parameters arguments chosen) {k : Nat}
    (hk : k < arguments.length) : cp.Finds parameters (arguments.take k) arguments[k] := by
  have hsplit : arguments.take k ++ arguments[k] :: arguments.drop (k + 1) = arguments := by
    rw [List.getElem_cons_drop, List.take_append_drop]
  have hall : cp.InTurn parameters (arguments.take k ++ arguments[k] :: arguments.drop (k + 1))
      chosen := by rwa [hsplit]
  exact hall.finds

/-- An argument to which nothing that is left can be cast finds nothing. -/
theorem InTurn.not_finds (h : cp.InTurn parameters before taken)
    (hnone : ∀ i, i ∉ taken → ¬ cp.Fits parameters i argument) :
    ¬ cp.Finds parameters before argument := by
  rintro ⟨other, hother, i, hunused, hfits⟩
  obtain rfl := h.unique hother
  exact hnone i hunused hfits

/-! ### The search -/

/-- The list of what is left, in ascending order. -/
structure Left (parameters : List TypeName) (taken free : List Nat) : Prop where
  ascending : free.Pairwise (· < ·)
  mem_iff : ∀ i, i ∈ free ↔ i < parameters.length ∧ i ∉ taken

/-- At the start everything is left. -/
theorem Left.initial (parameters : List TypeName) :
    Left parameters [] (List.range parameters.length) where
  ascending := List.pairwise_lt_range
  mem_iff i := by simp

/-- What is taken is not left any more. -/
theorem Left.erase (h : Left parameters taken free) (i : Nat) :
    Left parameters (taken ++ [i]) (free.erase i) where
  ascending := h.ascending.sublist List.erase_sublist
  mem_iff j := by
    have hnodup : free.Nodup := h.ascending.imp Nat.ne_of_lt
    rw [hnodup.mem_erase_iff, h.mem_iff, List.mem_append, List.mem_singleton]
    tauto

/-- A parameter that fits is there, so it is left if it is not taken. -/
theorem Left.mem_of_fits (h : Left parameters taken free) (hunused : i ∉ taken)
    (hfits : cp.Fits parameters i argument) : i ∈ free := by
  obtain ⟨parameter, hparameter, -⟩ := hfits
  exact (h.mem_iff i).mpr ⟨(List.getElem?_eq_some_iff.mp hparameter).1, hunused⟩

/-- The first that is left is the next. -/
theorem Left.next (h : Left parameters taken free)
    (hfirst : cp.First parameters free argument i) : cp.Next parameters taken argument i where
  unused := ((h.mem_iff i).mp hfirst.mem).2
  fits := hfirst.fits
  le j hunused hfits := hfirst.le j (h.mem_of_fits hunused hfits) hfits

/-- The search follows the rule from where it stands. -/
theorem matchArguments_continues (hbefore : cp.InTurn parameters before taken)
    (hleft : Left parameters taken free) :
    match cp.matchArguments parameters free rest with
    | .ok chosen => cp.InTurn parameters (before ++ rest) (taken ++ chosen)
    | .error unmatched => ∃ served after, rest = served ++ unmatched :: after
        ∧ ∃ all, cp.InTurn parameters (before ++ served) all
          ∧ ∀ i, i ∉ all → ¬ cp.Fits parameters i unmatched := by
  -- On the arguments that are still to come. Each that is served joins those before.
  induction rest generalizing before taken free with
  | nil =>
      show cp.InTurn parameters (before ++ []) (taken ++ [])
      rwa [List.append_nil, List.append_nil]
  | cons argument rest ih =>
      cases hfind : free.find? (cp.fits? parameters argument) with
      | none =>
          rw [matchArguments_of_none hfind]
          refine ⟨[], rest, rfl, taken, by rwa [List.append_nil], fun i hunused hfits => ?_⟩
          have hleftover := hleft.mem_of_fits hunused hfits
          exact List.find?_eq_none.mp hfind i hleftover (fits?_iff.mpr hfits)
      | some i =>
          have hnext := hleft.next (first_of_find? hleft.ascending hfind)
          have hrest := ih (hbefore.concat hnext) (hleft.erase i)
          rw [matchArguments_of_some hfind]
          cases hlater : cp.matchArguments parameters (free.erase i) rest with
          | ok later =>
              rw [hlater] at hrest
              show cp.InTurn parameters (before ++ argument :: rest) (taken ++ i :: later)
              simpa using hrest
          | error unmatched =>
              rw [hlater] at hrest
              obtain ⟨served, after, rfl, all, hall, hnone⟩ := hrest
              exact ⟨argument :: served, after, rfl, all, by simpa using hall, hnone⟩

/-- The search gives every argument its parameter by the rule, or it
ends at an argument that finds none. -/
theorem matchArguments_inTurn (cp : ClassPath) (parameters arguments : List TypeName) :
    match cp.matchArguments parameters (List.range parameters.length) arguments with
    | .ok chosen => cp.InTurn parameters arguments chosen
    | .error unmatched => ∃ before after, arguments = before ++ unmatched :: after
        ∧ ∃ taken, cp.InTurn parameters before taken
          ∧ ∀ i, i ∉ taken → ¬ cp.Fits parameters i unmatched :=
  matchArguments_continues .nil (.initial parameters)

/-- The search succeeds exactly with the parameters that the rule gives. -/
theorem matchArguments_eq_ok_iff :
    cp.matchArguments parameters (List.range parameters.length) arguments = .ok chosen
      ↔ cp.InTurn parameters arguments chosen := by
  have hspec := matchArguments_inTurn cp parameters arguments
  constructor
  · intro h
    rwa [h] at hspec
  · intro h
    cases hmatch : cp.matchArguments parameters (List.range parameters.length) arguments with
    | ok found =>
        rw [hmatch] at hspec
        rw [hspec.unique h]
    | error unmatched =>
        -- The argument that finds nothing would have been served.
        rw [hmatch] at hspec
        obtain ⟨served, after, rfl, taken, htaken, hnone⟩ := hspec
        exact absurd h.finds (htaken.not_finds hnone)

end BindingCompiler.ClassPath
