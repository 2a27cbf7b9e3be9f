import BindingCompiler.Registry.Basic
import BindingCompiler.Proofs.Registry.Resolution

/-!
# `BindingCompiler.Proofs.Registry.Registration`: runs of registrations

A run registers kinds one after the other over a class path that stays
as it is; a registration that fails changes nothing (`attempt`). A
successful one enters a single descriptor that its check accepts
(`register_ok`), so every descriptor that a run leaves is one that the
class path accepts (`accepts_of_registerAll`).
-/

set_option autoImplicit false

namespace BindingCompiler

/-- A call that registers a kind. -/
inductive Registration where
  | view (kind : Kind)
  | resource (kind : Kind) (variants : List ResourceSpec)
  | listener (kind : Kind) (spec : ListenerSpec)
  deriving DecidableEq, Repr

/-- What the checks of a registration ensure of the descriptor that is entered. -/
def ClassPath.Accepts (cp : ClassPath) : Descriptor → Prop
  | .view => True
  | .resource variants => cp.variantsFault? variants = none
  | .listener resolved => cp.resolveListener resolved.spec = .ok resolved

namespace ClassPath

/-- Accepted variants are accepted one by one. -/
theorem Accepts.variant {cp : ClassPath} {variants : List ResourceSpec}
    (h : cp.Accepts (.resource variants)) {v : ResourceSpec} (hv : v ∈ variants) :
    cp.variantFault? v = none := by
  have h : cp.variantsFault? variants = none := h
  unfold variantsFault? at h
  split at h
  · exact absurd h (by simp)
  · exact List.findSome?_eq_none_iff.mp h v hv

end ClassPath

namespace Registry

/-- Makes a registration. -/
def register (r : Registry) : Registration → Except RegistryError Registry
  | .view kind => .ok (r.registerView kind)
  | .resource kind variants => r.registerResource kind variants
  | .listener kind spec => r.registerListener kind spec

/-- Makes a registration, and keeps the registry if it fails. -/
def attempt (r : Registry) (g : Registration) : Registry :=
  match r.register g with
  | .ok next => next
  | .error _ => r

/-- The registry after a run of registrations. -/
def registerAll (r : Registry) (run : List Registration) : Registry := run.foldl attempt r

/-- A listener kind is registered exactly if its spec is resolved. -/
theorem registerListener_eq_ok_iff {r next : Registry} {kind : Kind} {spec : ListenerSpec} :
    r.registerListener kind spec = .ok next
      ↔ ∃ l, r.classPath.resolveListener spec = .ok l ∧ next = r.enter kind (.listener l) := by
  unfold registerListener
  cases r.classPath.resolveListener spec with
  | error fault => simp
  | ok l => simp [eq_comm]

/-- A successful registration enters one descriptor, which the class path accepts. -/
theorem register_ok {r next : Registry} {g : Registration} (h : r.register g = .ok next) :
    ∃ kind d, next = r.enter kind d ∧ r.classPath.Accepts d := by
  cases g with
  | view kind =>
      cases h
      exact ⟨kind, .view, rfl, trivial⟩
  | resource kind variants =>
      simp only [register, registerResource] at h
      split at h
      · exact absurd h (by simp)
      · rename_i hfault
        cases h
        exact ⟨kind, .resource variants, rfl, hfault⟩
  | listener kind spec =>
      obtain ⟨l, hl, rfl⟩ := registerListener_eq_ok_iff.mp h
      refine ⟨kind, .listener l, rfl, ?_⟩
      show r.classPath.resolveListener l.spec = .ok l
      obtain ⟨_, _, hresolves⟩ := ClassPath.resolves_of_resolveListener hl
      rw [hresolves.spec_eq]
      exact hl

/-- An attempt changes nothing, or it enters one descriptor, which the class path accepts. -/
theorem attempt_cases (r : Registry) (g : Registration) :
    r.attempt g = r ∨ ∃ kind d, r.attempt g = r.enter kind d ∧ r.classPath.Accepts d := by
  unfold attempt
  split
  · rename_i next h
    exact .inr (register_ok h)
  · exact .inl rfl

/-- Every registered descriptor is one that the registry's class path accepts. -/
def AllAccepted (r : Registry) : Prop :=
  ∀ kind d, r.descriptor? kind = some d → r.classPath.Accepts d

/-- Nothing is registered at the start. -/
@[simp] theorem descriptor?_ofClassPath (cp : ClassPath) (kind : Kind) :
    (ofClassPath cp).descriptor? kind = none :=
  rfl

/-- So there is nothing to accept. -/
theorem allAccepted_ofClassPath (cp : ClassPath) : (ofClassPath cp).AllAccepted := by
  intro kind d h
  exact absurd h (by simp)

/-- An attempt leaves the class path as it is. -/
theorem classPath_attempt (r : Registry) (g : Registration) :
    (r.attempt g).classPath = r.classPath := by
  obtain h | ⟨kind, d, h, -⟩ := r.attempt_cases g <;> rw [h]
  rfl

/-- An attempt keeps the descriptors accepted. -/
theorem AllAccepted.attempt {r : Registry} (h : r.AllAccepted) (g : Registration) :
    (r.attempt g).AllAccepted := by
  obtain he | ⟨kind, d, he, haccepts⟩ := r.attempt_cases g <;> rw [he]
  · exact h
  · intro other e hother
    rw [descriptor?_enter] at hother
    split at hother
    · cases hother
      exact haccepts
    · exact h other e hother

/-- A run leaves the class path as it is. -/
theorem classPath_registerAll (r : Registry) (run : List Registration) :
    (r.registerAll run).classPath = r.classPath := by
  unfold registerAll
  induction run generalizing r with
  | nil => rfl
  | cons g rest ih =>
      rw [List.foldl_cons, ih, classPath_attempt]

/-- A run keeps the descriptors accepted. -/
theorem AllAccepted.registerAll {r : Registry} (h : r.AllAccepted) (run : List Registration) :
    (r.registerAll run).AllAccepted := by
  unfold Registry.registerAll
  induction run generalizing r with
  | nil => exact h
  | cons g rest ih => exact ih (h.attempt g)

/-- Every descriptor after a run that starts without kinds is one that
the class path accepts. -/
theorem accepts_of_registerAll {cp : ClassPath} {run : List Registration} {kind : Kind}
    {d : Descriptor} (h : ((ofClassPath cp).registerAll run).descriptor? kind = some d) :
    cp.Accepts d := by
  have hall := (allAccepted_ofClassPath cp).registerAll run kind d h
  rwa [classPath_registerAll] at hall

end Registry

end BindingCompiler
