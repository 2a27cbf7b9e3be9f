import BindingCompiler.Registry.Check
import BindingCompiler.Proofs.ClassPath.Methods

/-!
# `BindingCompiler.Proofs.Registry.Resolution`: what an accepted listener spec ensures

`ClassPath.resolveListener` makes its checks one after the other and
stops at the first fault. `Resolves` lists what holds once all of them
have passed; `resolves_of_resolveListener` is the only proof that opens
the checks in their order.

* `perm_of_pickCallback`: the callback and the stubs are the abstract
  methods of the listener, none lost and none doubled.
* `onlySetter_of_findSetter`: the setter has the only signature with one
  parameter that the owner has under the name, and accepts the listener.
-/

set_option autoImplicit false

namespace BindingCompiler

/-- The first step of a computation that succeeds has succeeded, and so does the rest after it. -/
theorem exists_of_bind_eq_ok {ε α β : Type} {x : Except ε α} {f : α → Except ε β} {b : β}
    (h : x >>= f = .ok b) : ∃ a, x = .ok a ∧ f a = .ok b := by
  cases x with
  | error e => exact absurd h (by simp [bind, Except.bind])
  | ok a => exact ⟨a, rfl, h⟩

namespace ClassPath

/-- `m` is the method that attaches a listener to an owner: under its
name the owner has methods with one parameter in its signature only,
and the listener is a subclass of the type of that parameter. -/
structure OnlySetter (cp : ClassPath) (owner listener : TypeName) (name : String) (m : Method) :
    Prop where
  name_eq : m.name = name
  declared : cp.HasMethod owner m
  accepts : ∃ accepted, m.parameters = [accepted] ∧ cp.isSubclassOf listener accepted = true
  unique : ∀ n, cp.HasMethod owner n → n.name = name → n.parameters.length = 1 →
    n.signature = m.signature

/-- What the checks of a listener spec ensure, with the declarations of its two types. -/
structure Resolves (cp : ClassPath) (spec : ListenerSpec) (l : ResolvedListener)
    (owner listener : ClassType) : Prop where
  spec_eq : l.spec = spec
  named : nameFault? spec = none
  owner_isClass : roleFault? .owner spec.owner = none
  listener_isClass : roleFault? .listener spec.listener = none
  owner_declared : cp.get? spec.owner = some owner
  listener_declared : cp.get? spec.listener = some listener
  accessible : accessFault? owner listener = none
  returns : returnFault? (cp.abstractMethods spec.listener) = none
  picked : pickCallback spec.listener spec.callback? (cp.abstractMethods spec.listener)
    = .ok (l.callback, l.stubs)
  attaches : cp.findSetter spec.owner spec.listener spec.setter = .ok l.setter
  detaches : spec.unsetsWithNull = false →
    ∃ m, cp.findSetter spec.owner spec.listener spec.unsetter = .ok m
  isInterface_eq : l.isInterface = listener.isInterface

variable {cp : ClassPath} {spec : ListenerSpec} {l : ResolvedListener}

/-! ### The checks in their order -/

/-- A refusal that is passed has no fault. -/
theorem eq_none_of_refuse {fault? : Option SpecFault} {u : Unit} (h : refuse fault? = .ok u) :
    fault? = none := by
  cases fault? with
  | none => rfl
  | some fault => exact absurd h (by simp [refuse])

/-- A type that passes as declared is declared. -/
theorem get?_of_declared {role : Role} {type : TypeName} {c : ClassType}
    (h : cp.declared role type = .ok c) : cp.get? type = some c := by
  unfold declared at h
  split at h
  · rename_i d hd
    cases h
    exact hd
  · exact absurd h (by simp)

/-- A declared type passes as declared. -/
theorem declared_of_get? {role : Role} {type : TypeName} {c : ClassType}
    (h : cp.get? type = some c) : cp.declared role type = .ok c := by
  rw [declared, h]

/-- A spec that is resolved has passed every check. -/
theorem resolves_of_resolveListener (h : cp.resolveListener spec = .ok l) :
    ∃ owner listener, cp.Resolves spec l owner listener := by
  unfold resolveListener at h
  obtain ⟨_, hnamed, h⟩ := exists_of_bind_eq_ok h
  obtain ⟨_, hownerRole, h⟩ := exists_of_bind_eq_ok h
  obtain ⟨_, hlistenerRole, h⟩ := exists_of_bind_eq_ok h
  obtain ⟨owner, howner, h⟩ := exists_of_bind_eq_ok h
  obtain ⟨listener, hlistener, h⟩ := exists_of_bind_eq_ok h
  obtain ⟨_, haccess, h⟩ := exists_of_bind_eq_ok h
  obtain ⟨_, hreturns, h⟩ := exists_of_bind_eq_ok h
  obtain ⟨⟨callback, stubs⟩, hpick, h⟩ := exists_of_bind_eq_ok h
  obtain ⟨setter, hsetter, h⟩ := exists_of_bind_eq_ok h
  refine ⟨owner, listener, ?_⟩
  cases hnull : spec.unsetsWithNull with
  | true =>
      simp only [hnull, if_true] at h
      cases h
      exact ⟨rfl, eq_none_of_refuse hnamed, eq_none_of_refuse hownerRole,
        eq_none_of_refuse hlistenerRole, get?_of_declared howner, get?_of_declared hlistener,
        eq_none_of_refuse haccess, eq_none_of_refuse hreturns, hpick, hsetter, by simp [hnull], rfl⟩
  | false =>
      simp only [hnull, Bool.false_eq_true, if_false] at h
      obtain ⟨unsetter, hunsetter, h⟩ := exists_of_bind_eq_ok h
      cases h
      exact ⟨rfl, eq_none_of_refuse hnamed, eq_none_of_refuse hownerRole,
        eq_none_of_refuse hlistenerRole, get?_of_declared howner, get?_of_declared hlistener,
        eq_none_of_refuse haccess, eq_none_of_refuse hreturns, hpick, hsetter,
        fun _ => ⟨unsetter, hunsetter⟩, rfl⟩

/-- A spec that passes every check is resolved. -/
theorem Resolves.resolveListener {owner listener : ClassType}
    (h : cp.Resolves spec l owner listener) : cp.resolveListener spec = .ok l := by
  obtain ⟨lspec, setter, callback, stubs, isInterface⟩ := l
  obtain rfl : lspec = spec := h.spec_eq
  obtain rfl : isInterface = listener.isInterface := h.isInterface_eq
  simp only [ClassPath.resolveListener, refuse, bind, Except.bind, h.named, h.owner_isClass,
    h.listener_isClass, declared_of_get? h.owner_declared, declared_of_get? h.listener_declared,
    h.accessible, h.returns, h.picked, h.attaches]
  cases hnull : lspec.unsetsWithNull with
  | true => rfl
  | false =>
      obtain ⟨m, hm⟩ := h.detaches hnull
      rw [hm]
      rfl

/-! ### The two types -/

/-- A type that can play a role is neither an array nor primitive. -/
theorem roleFault?_eq_none_iff {role : Role} {t : TypeName} :
    roleFault? role t = none ↔ t.component? = none ∧ t.isPrimitive = false := by
  unfold roleFault? TypeName.isArray
  cases t.component? <;> cases t.isPrimitive <;> simp

/-- The owner of an accepted spec is a public class or interface that is declared. -/
theorem Resolves.owner_isPublic {owner listener : ClassType}
    (h : cp.Resolves spec l owner listener) : owner.isPublic = true := by
  have haccess := h.accessible
  unfold accessFault? at haccess
  split at haccess
  · exact absurd haccess (by simp)
  · rename_i hpublic
    simpa using hpublic

/-! ### The callback and the stubs -/

section
variable {listener : TypeName} {name? : Option String} {methods stubs : List Method}
  {callback : Method}

/-- The callback and the stubs are the methods that it is picked from. -/
theorem perm_of_pickCallback (h : pickCallback listener name? methods = .ok (callback, stubs)) :
    (callback :: stubs).Perm methods := by
  unfold pickCallback at h
  split at h
  · rename_i name
    split at h
    · rename_i m hm
      cases h
      -- The callback is all that has the name; the stubs are what has not.
      have hsplit := List.filter_append_perm (fun n : Method => n.name == name) methods
      rw [hm] at hsplit
      exact hsplit
    · exact absurd h (by simp)
    · exact absurd h (by simp)
  · split at h
    · cases h
      exact .refl _
    · exact absurd h (by simp)
    · exact absurd h (by simp)

/-- A named callback is the only method of the name. -/
theorem filter_of_pickCallback {name : String}
    (h : pickCallback listener (some name) methods = .ok (callback, stubs)) :
    methods.filter (fun m => m.name == name) = [callback] := by
  simp only [pickCallback] at h
  split at h
  · rename_i m hm
    cases h
    exact hm
  · exact absurd h (by simp)
  · exact absurd h (by simp)

/-- A callback without a name is the only method at all. -/
theorem stubs_of_pickCallback
    (h : pickCallback listener none methods = .ok (callback, stubs)) : stubs = [] := by
  simp only [pickCallback] at h
  split at h
  · cases h
    rfl
  · exact absurd h (by simp)
  · exact absurd h (by simp)

end

/-- Supported are `void` and `boolean`. -/
theorem isSupportedReturn_iff {t : TypeName} :
    isSupportedReturn t = true ↔ t = .void ∨ t = .boolean := by
  simp [isSupportedReturn]

/-- Without a fault, all methods return `void` or a boolean. -/
theorem supported_of_returnFault? {methods : List Method} (h : returnFault? methods = none)
    {m : Method} (hm : m ∈ methods) : m.returns = .void ∨ m.returns = .boolean := by
  unfold returnFault? at h
  rw [Option.map_eq_none_iff, List.find?_eq_none] at h
  have hsupported := h m hm
  rw [Bool.not_eq_true', Bool.not_eq_false] at hsupported
  exact isSupportedReturn_iff.mp hsupported

/-- The callback and the stubs of an accepted spec return `void` or a boolean. -/
theorem Resolves.supported {owner listener : ClassType} (h : cp.Resolves spec l owner listener) :
    ∀ m ∈ l.callback :: l.stubs, m.returns = .void ∨ m.returns = .boolean := fun _ hm =>
  supported_of_returnFault? h.returns ((perm_of_pickCallback h.picked).mem_iff.mp hm)

/-! ### The setter -/

/-- The method that is found as a setter is the owner's only one. -/
theorem onlySetter_of_findSetter {owner listener : TypeName} {name : String} {m : Method}
    (h : cp.findSetter owner listener name = .ok m) : cp.OnlySetter owner listener name m := by
  unfold findSetter at h
  split at h
  · rename_i n hn
    split at h
    · rename_i accepted rest hparameters
      split at h
      · rename_i hsub
        cases h
        have hmem : m ∈ (cp.findMethods owner name).filter fun m => m.parameters.length == 1 := by
          rw [hn]
          simp
        obtain ⟨hfound, hlength⟩ := List.mem_filter.mp hmem
        obtain ⟨hhas, hname⟩ := hasMethod_of_mem_findMethods hfound
        refine ⟨hname, hhas, ⟨accepted, ?_, hsub⟩, ?_⟩
        · rw [hparameters] at hlength ⊢
          simpa using hlength
        · intro k hk hkname hklength
          -- The lookup has a method of this signature, and there is only one with one parameter.
          obtain ⟨f, hf, hsig⟩ := exists_mem_findMethods hk hkname
          have hflength : f.parameters.length = 1 := by
            rw [show f.parameters = k.parameters from congrArg Prod.snd hsig]
            exact hklength
          have : f ∈ [m] := by
            rw [← hn]
            exact List.mem_filter.mpr ⟨hf, by simp [hflength]⟩
          rw [← hsig, List.mem_singleton.mp this]
      · exact absurd h (by simp)
    · exact absurd h (by simp)
  · exact absurd h (by simp)
  · exact absurd h (by simp)

end ClassPath

end BindingCompiler
