import BindingCompiler.Proofs.Registry.Registration
import Mathlib.Data.List.Nodup

/-!
# `BindingCompiler.Proofs.Registry.Runs`: registrations up to the first refusal

A registration checks its spec and enters what the check makes of it
(`register_eq`), so a registered kind can be registered again from its
own descriptor, and this changes nothing as long as the class path still
accepts the descriptor (`register_registration_eq_ok_iff`). Whether it
does is another matter: further declarations may come between the check
and the use.

* `descriptor?_of_registerEach`: where the descriptors come from after a
  run that stops at the first refusal.
* `Reached`: the registries that declarations and registrations lead to,
  in any order. What is registered there was accepted at some time
  (`Reached.accepts`).
-/

set_option autoImplicit false

namespace BindingCompiler

/-- The kind that is registered. -/
def Registration.kind : Registration → Kind
  | .view kind => kind
  | .resource kind _ => kind
  | .listener kind _ => kind

/-- The registration that a kind with this descriptor can come from. -/
def Descriptor.registration (kind : Kind) : Descriptor → Registration
  | .view => .view kind
  | .resource variants => .resource kind variants
  | .listener resolved => .listener kind resolved.spec

/-- A descriptor is registered again under the kind it is given. -/
@[simp] theorem Descriptor.kind_registration (kind : Kind) (d : Descriptor) :
    (d.registration kind).kind = kind := by
  cases d <;> rfl

namespace ClassPath

/-- Checks what is registered, for the descriptor of the kind. -/
def check (cp : ClassPath) : Registration → Except SpecFault Descriptor
  | .view _ => .ok .view
  | .resource _ variants =>
    match cp.variantsFault? variants with
    | some fault => .error fault
    | none => .ok (.resource variants)
  | .listener _ spec => (cp.resolveListener spec).map .listener

variable {cp : ClassPath}

/-- A listener that is resolved passes the check. -/
theorem check_of_resolveListener {kind : Kind} {spec : ListenerSpec} {l : ResolvedListener}
    (h : cp.resolveListener spec = .ok l) :
    cp.check (.listener kind spec) = .ok (.listener l) := by
  rw [check, h]
  rfl

/-- What the check of a registration makes of it is accepted. -/
theorem accepts_of_check {g : Registration} {d : Descriptor} (h : cp.check g = .ok d) :
    cp.Accepts d ∧ d.registration g.kind = g := by
  cases g with
  | view kind =>
      cases h
      exact ⟨trivial, rfl⟩
  | resource kind variants =>
      simp only [check] at h
      split at h
      · exact absurd h (by simp)
      · rename_i hfault
        cases h
        exact ⟨hfault, rfl⟩
  | listener kind spec =>
      rw [check] at h
      cases hl : cp.resolveListener spec with
      | error fault => exact absurd (hl ▸ h) (by simp [Except.map])
      | ok l =>
          rw [hl] at h
          cases h
          obtain ⟨_, _, hresolves⟩ := resolves_of_resolveListener hl
          refine ⟨?_, ?_⟩
          · show cp.resolveListener l.spec = .ok l
            rw [hresolves.spec_eq]
            exact hl
          · rw [Descriptor.registration, hresolves.spec_eq]
            rfl

/-- A descriptor is accepted exactly if the check of its own registration gives it back. -/
theorem check_registration_iff {kind : Kind} {d : Descriptor} :
    cp.check (d.registration kind) = .ok d ↔ cp.Accepts d := by
  constructor
  · exact fun h => (accepts_of_check h).1
  · intro h
    cases d with
    | view => rfl
    | resource variants =>
        have hfault : cp.variantsFault? variants = none := h
        simp only [Descriptor.registration, check, hfault]
    | listener l => exact check_of_resolveListener h

end ClassPath

namespace Registry

/-! ### One registration -/

/-- A registration enters what its check gives, or it is refused with the fault. -/
theorem register_eq (r : Registry) (g : Registration) :
    r.register g = match r.classPath.check g with
      | .error fault => .error (.malformed g.kind fault)
      | .ok d => .ok (r.enter g.kind d) := by
  cases g with
  | view kind => rfl
  | resource kind variants =>
      simp only [register, registerResource, ClassPath.check]
      cases r.classPath.variantsFault? variants <;> rfl
  | listener kind spec =>
      simp only [register, registerListener, ClassPath.check]
      cases r.classPath.resolveListener spec <;> rfl

/-- A registration succeeds exactly if its check does. -/
theorem register_eq_ok_iff {r result : Registry} {g : Registration} :
    r.register g = .ok result ↔ ∃ d, r.classPath.check g = .ok d ∧ result = r.enter g.kind d := by
  rw [register_eq]
  cases r.classPath.check g with
  | error fault => simp
  | ok d => simp [eq_comm]

/-- To enter what is there changes nothing. -/
theorem enter_self {r : Registry} {kind : Kind} {d : Descriptor}
    (h : r.descriptor? kind = some d) : r.enter kind d = r := by
  obtain ⟨k, hk, rfl⟩ := Option.map_eq_some_iff.mp h
  -- The table looks kinds up by name, and a kind is nothing but its name.
  have hname : k.kind = kind := by
    have := (Table.get?_eq_some_iff.mp hk).2
    cases hkind : k.kind
    cases kind
    simp_all
  have hsame : r.kinds.insert ⟨kind, k.descriptor⟩ = r.kinds := by
    refine Table.ext_get? fun n => ?_
    rw [Table.get?_insert]
    split
    · rename_i hn
      rw [← hn, hk, ← hname]
    · rfl
  rw [enter, hsame]

/-- A registered kind is registered again without a change exactly as
long as the class path accepts its descriptor. -/
theorem register_registration_eq_ok_iff {r : Registry} {kind : Kind} {d : Descriptor}
    (h : r.descriptor? kind = some d) :
    r.register (d.registration kind) = .ok r ↔ r.classPath.Accepts d := by
  rw [register_eq_ok_iff, Descriptor.kind_registration]
  constructor
  · rintro ⟨e, hcheck, hr⟩
    -- The kind keeps its descriptor, so the check gave that one.
    have hdescriptor : r.descriptor? kind = some e := by
      rw [hr, descriptor?_enter, if_pos rfl]
    obtain rfl : d = e := Option.some.inj (h.symm.trans hdescriptor)
    exact (ClassPath.accepts_of_check hcheck).1
  · intro haccepts
    exact ⟨d, ClassPath.check_registration_iff.mpr haccepts, (enter_self h).symm⟩

/-- Different kinds can be entered in either order. -/
theorem enter_comm (r : Registry) {kind other : Kind} (h : kind ≠ other) (d e : Descriptor) :
    (r.enter kind d).enter other e = (r.enter other e).enter kind d := by
  have hkinds := r.kinds.insert_comm (a := ⟨kind, d⟩) (b := ⟨other, e⟩)
    fun hname => h (Kind.eq_of_name hname)
  simp only [enter, hkinds]

/-- An attempt enters what the check gives, if it gives something. -/
theorem attempt_eq (r : Registry) (g : Registration) :
    r.attempt g = match r.classPath.check g with
      | .error _ => r
      | .ok d => r.enter g.kind d := by
  rw [attempt, register_eq]
  cases r.classPath.check g <;> rfl

/-- An attempt enters a listener that is resolved. -/
theorem attempt_of_resolveListener {r : Registry} {kind : Kind} {spec : ListenerSpec}
    {l : ResolvedListener} (h : r.classPath.resolveListener spec = .ok l) :
    r.attempt (.listener kind spec) = r.enter kind (.listener l) := by
  rw [attempt_eq, ClassPath.check_of_resolveListener h]
  rfl

/-- Registrations of different kinds can be attempted in either order: the class path, which
their checks depend on, is the same before and after each. -/
theorem attempt_comm (r : Registry) {g h : Registration} (hkind : g.kind ≠ h.kind) :
    (r.attempt g).attempt h = (r.attempt h).attempt g := by
  rw [attempt_eq (r.attempt g), attempt_eq (r.attempt h), classPath_attempt, classPath_attempt,
    attempt_eq r g, attempt_eq r h]
  cases r.classPath.check g with
  | error _ => cases r.classPath.check h <;> rfl
  | ok d =>
      cases r.classPath.check h with
      | error _ => rfl
      | ok e => exact enter_comm r hkind d e

/-! ### Registrations one after the other -/

/-- Makes registrations in turn, up to the first that is refused. -/
def registerEach (r : Registry) (run : List Registration) : Except RegistryError Registry :=
  run.foldlM register r

/-- A run is made in two parts. -/
theorem registerEach_append (r : Registry) (first rest : List Registration) :
    r.registerEach (first ++ rest) = r.registerEach first >>= fun next => next.registerEach rest :=
  List.foldlM_append

/-- After a run, a kind has the descriptor that the check of one of its
registrations gave, or the run does not register it and it has the one
it had before. -/
theorem descriptor?_of_registerEach {r result : Registry} {run : List Registration}
    (h : r.registerEach run = .ok result) :
    result.classPath = r.classPath ∧ ∀ kind d, result.descriptor? kind = some d →
      (∃ g ∈ run, g.kind = kind ∧ r.classPath.check g = .ok d)
        ∨ (∀ g ∈ run, g.kind ≠ kind) ∧ r.descriptor? kind = some d := by
  -- Of several registrations of one kind the last one counts, so the rest of the run comes first.
  induction run generalizing r with
  | nil =>
      cases h
      exact ⟨rfl, fun kind d hd => .inr ⟨by simp, hd⟩⟩
  | cons g rest ih =>
      obtain ⟨next, hnext, hrest⟩ := exists_of_bind_eq_ok h
      obtain ⟨e, hcheck, rfl⟩ := register_eq_ok_iff.mp hnext
      obtain ⟨hpath, hdescriptors⟩ := ih hrest
      refine ⟨hpath, fun kind d hd => ?_⟩
      obtain ⟨g', hg', hkind, hg'check⟩ | ⟨hno, hold⟩ := hdescriptors kind d hd
      · exact .inl ⟨g', List.mem_cons_of_mem _ hg', hkind, hg'check⟩
      · rw [descriptor?_enter] at hold
        split at hold
        · rename_i hkind
          cases hold
          exact .inl ⟨g, List.mem_cons_self, hkind, hcheck⟩
        · rename_i hkind
          exact .inr ⟨List.forall_mem_cons.mpr ⟨hkind, hno⟩, hold⟩

/-- After a run that starts without kinds, every kind comes from the run. -/
theorem exists_registration {cp : ClassPath} {result : Registry} {run : List Registration}
    (h : (ofClassPath cp).registerEach run = .ok result) :
    result.classPath = cp ∧ ∀ kind d, result.descriptor? kind = some d →
      ∃ g ∈ run, g.kind = kind ∧ cp.check g = .ok d := by
  obtain ⟨hpath, horigin⟩ := descriptor?_of_registerEach h
  refine ⟨hpath, fun kind d hd => (horigin kind d hd).resolve_right ?_⟩
  rintro ⟨-, hnone⟩
  exact absurd hnone (by simp)

/-- A run of registrations that are all accepted reaches its end. There
the kinds of the run are registered, and those from before. -/
theorem exists_registerEach {r : Registry} {run : List Registration}
    (h : ∀ g ∈ run, ∃ d, r.classPath.check g = .ok d) :
    ∃ result, r.registerEach run = .ok result
      ∧ ∀ kind, kind ∈ run.map Registration.kind ∨ r.contains kind = true →
        result.contains kind = true := by
  induction run generalizing r with
  | nil => exact ⟨r, rfl, fun kind hkind => hkind.elim (by simp) id⟩
  | cons g rest ih =>
      obtain ⟨⟨d, hd⟩, hrest⟩ := List.forall_mem_cons.mp h
      have hnext : r.register g = .ok (r.enter g.kind d) := register_eq_ok_iff.mpr ⟨d, hd, rfl⟩
      obtain ⟨result, hresult, hkinds⟩ := ih (r := r.enter g.kind d) hrest
      refine ⟨result, ?_, fun kind hkind => hkinds kind ?_⟩
      · rw [registerEach, List.foldlM_cons, hnext]
        exact hresult
      · by_cases hg : g.kind = kind
        · simp [contains, descriptor?_enter, hg]
        · simpa [contains, descriptor?_enter, hg, Ne.symm hg] using hkind

/-- A run reaches its end exactly if all checks succeed, and leads where the attempts lead. -/
theorem registerEach_eq_ok_iff {r result : Registry} {run : List Registration} :
    r.registerEach run = .ok result
      ↔ (∀ g ∈ run, ∃ d, r.classPath.check g = .ok d) ∧ r.registerAll run = result := by
  induction run generalizing r with
  | nil => exact ⟨fun h => ⟨by simp, Except.ok.inj h⟩, fun h => congrArg Except.ok h.2⟩
  | cons g rest ih =>
      have hrest := ih (r := r.attempt g)
      rw [classPath_attempt] at hrest
      constructor
      · intro h
        obtain ⟨next, hnext, hresult⟩ := exists_of_bind_eq_ok h
        obtain ⟨d, hd, -⟩ := register_eq_ok_iff.mp hnext
        have hattempt : r.attempt g = next := by rw [attempt, hnext]
        obtain ⟨hchecks, hall⟩ := hrest.mp (hattempt ▸ hresult)
        exact ⟨List.forall_mem_cons.mpr ⟨⟨d, hd⟩, hchecks⟩, hall⟩
      · rintro ⟨hchecks, hall⟩
        obtain ⟨⟨d, hd⟩, hchecks⟩ := List.forall_mem_cons.mp hchecks
        have hnext : r.register g = .ok (r.enter g.kind d) := register_eq_ok_iff.mpr ⟨d, hd, rfl⟩
        have hattempt : r.attempt g = r.enter g.kind d := by rw [attempt, hnext]
        rw [registerEach, List.foldlM_cons, hnext]
        exact hattempt ▸ hrest.mpr ⟨hchecks, hall⟩

/-- Registrations of distinct kinds can be attempted in any order. -/
theorem registerAll_perm (r : Registry) {run other : List Registration} (hperm : run.Perm other)
    (hkinds : (run.map Registration.kind).Nodup) : r.registerAll run = r.registerAll other := by
  refine hperm.foldl_eq' (fun g hg h hh before => ?_) r
  by_cases hkind : g.kind = h.kind
  · rw [List.inj_on_of_nodup_map hkinds hg hh hkind]
  · exact before.attempt_comm hkind

/-! ### Registries that are reached -/

/-- The registries that declarations and registrations lead to; one that
is refused changes nothing. -/
inductive Reached : Registry → Prop
  | start (cp : ClassPath) : Reached (ofClassPath cp)
  | declare {r : Registry} (c : ClassType) : Reached r → Reached (r.declare c)
  | attempt {r : Registry} (g : Registration) : Reached r → Reached (r.attempt g)

/-- What is registered was accepted by the class path of its registration. -/
theorem Reached.accepts {r : Registry} (h : r.Reached) {kind : Kind} {d : Descriptor}
    (hd : r.descriptor? kind = some d) : ∃ cp : ClassPath, cp.Accepts d := by
  induction h generalizing kind d with
  | start cp => exact ⟨cp, allAccepted_ofClassPath cp kind d hd⟩
  | declare c _ ih => exact ih hd
  | @attempt r g _ ih =>
      obtain he | ⟨entered, e, he, haccepts⟩ := r.attempt_cases g <;> rw [he] at hd
      · exact ih hd
      · rw [descriptor?_enter] at hd
        split at hd
        · cases hd
          exact ⟨r.classPath, haccepts⟩
        · exact ih hd

end Registry

end BindingCompiler
