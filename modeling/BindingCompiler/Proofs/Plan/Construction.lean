import BindingCompiler.Proofs.Marker.Report
import BindingCompiler.Proofs.Marker.Validity
import BindingCompiler.Proofs.Plan.Views
import Mathlib.Data.List.Forall2

/-!
# `BindingCompiler.Proofs.Plan.Construction`: what a plan is made of

`Plan.build` places the markers of a class one after the other in a
draft. `Draft.Lays` states what the draft is after some bindings, all at
once; each placement keeps it (`Lays.extend`), or is refused
(`Registry.refusal?`).

* `build_run`: a plan is built, by the bindings of all markers, when no
  marker is refused, and otherwise the first refusal is the failure.
* `exists_bindings_of_build`: a plan that is built lays out the bindings
  of the markers.
* `coherent_of_build`: it holds every view that its listeners and fields
  refer to.
-/

set_option autoImplicit false

namespace BindingCompiler

/-! ### Folds that can fail -/

/-- Each element of a list after the elements that precede it, which follow on `done`. -/
def splits {α : Type} (done : List α) : List α → List (List α × α)
  | [] => []
  | a :: rest => (done, a) :: splits (done ++ [a]) rest

/-- A fold that keeps an invariant on what it has passed, or else refuses
an element: it fails with the first refusal, and without one it keeps
the invariant to its end. -/
theorem foldlM_run {ε α β : Type} {f : β → α → Except ε β} {refuse : List α → α → Option ε}
    {P : List α → β → Prop}
    (hrefuse : ∀ done a b e, P done b → refuse done a = some e → f b a = .error e)
    (hpass : ∀ done a b, P done b → refuse done a = none →
      ∃ b', f b a = .ok b' ∧ P (done ++ [a]) b')
    (l done : List α) (b : β) (hb : P done b) :
    (∀ e, (splits done l).findSome? (fun s => refuse s.1 s.2) = some e → l.foldlM f b = .error e)
      ∧ ((splits done l).findSome? (fun s => refuse s.1 s.2) = none →
        ∃ b', l.foldlM f b = .ok b' ∧ P (done ++ l) b') := by
  induction l generalizing done b with
  | nil => exact ⟨by simp [splits], fun _ => ⟨b, rfl, by simpa using hb⟩⟩
  | cons a rest ih =>
      rw [splits, List.findSome?_cons, List.foldlM_cons]
      cases hrefused : refuse done a with
      | some e =>
          rw [hrefuse done a b e hb hrefused]
          refine ⟨fun e' he => ?_, fun he => absurd he (by simp)⟩
          cases he
          rfl
      | none =>
          obtain ⟨b', hstep, hb'⟩ := hpass done a b hb hrefused
          obtain ⟨herror, hok⟩ := ih (done ++ [a]) b' hb'
          rw [hstep, List.append_cons done a rest]
          exact ⟨herror, hok⟩

/-! ### What a binding adds -/

namespace Binding

/-- The views that a binding asks for. -/
def demands : Binding → List Demand
  | .view _ field id isOptional => [⟨id, .field field.name, isOptional⟩]
  | .resource .. => []
  | .listener _ method ids isOptional _ _ _ => ids.map fun id => ⟨id, .method method.name, isOptional⟩

/-- The assignments of a binding. -/
def assignments : Binding → List FieldAssignment
  | .view _ field id _ => [.view field id]
  | .resource _ field id spec => [.resource field id spec]
  | .listener .. => []

/-- The listener of a binding, given the name of its class. -/
def listener? : Binding → Option (TypeName → ListenerTarget)
  | .view .. | .resource .. => none
  | .listener kind method ids isOptional resolved arguments returns =>
    some fun className =>
      { className
        field := listenerField method.name kind
        kind, method, ids, isOptional
        listener := resolved
        arguments, returns }

/-- The key of a listener. -/
def key? : Binding → Option Registry.ListenerKey
  | .view .. | .resource .. => none
  | .listener kind method _ _ _ _ _ => some (method.name, kind)

end Binding

/-- The key of a listener in a plan. -/
def ListenerTarget.key (l : ListenerTarget) : Registry.ListenerKey := (l.method.name, l.kind)

/-- The listeners of some bindings, with the classes that `name` gives them in turn. -/
def listenersOf (name : Nat → TypeName) (bindings : List Binding) : List ListenerTarget :=
  (bindings.filterMap Binding.listener?).mapIdx fun i listener => listener (name i)

/-- The name of the listener class of a number. -/
def listenerType (target : TypeName) (i : Nat) : TypeName :=
  (bindingType target).nested (toString i)

section
variable {name : Nat → TypeName} {bindings : List Binding} {b : Binding}

/-- Every listener has a name of its own number. -/
theorem length_listenersOf :
    (listenersOf name bindings).length = (bindings.filterMap Binding.listener?).length :=
  List.length_mapIdx

/-- A binding without a listener adds none. -/
theorem listenersOf_of_none (h : b.listener? = none) :
    listenersOf name (bindings ++ [b]) = listenersOf name bindings := by
  simp [listenersOf, List.filterMap_append, h]

/-- A binding with a listener adds it under the next number. -/
theorem listenersOf_concat {listener : TypeName → ListenerTarget}
    (h : b.listener? = some listener) :
    listenersOf name (bindings ++ [b])
      = listenersOf name bindings
        ++ [listener (name (bindings.filterMap Binding.listener?).length)] := by
  simp [listenersOf, List.filterMap_append, h]

/-- A listener comes from a binding, under a name of its own number. -/
theorem exists_of_mem_listenersOf {l : ListenerTarget} (h : l ∈ listenersOf name bindings) :
    .listener l.kind l.method l.ids l.isOptional l.listener l.arguments l.returns ∈ bindings
      ∧ l.field = listenerField l.method.name l.kind ∧ ∃ i, l.className = name i := by
  rw [listenersOf, List.mem_mapIdx] at h
  obtain ⟨i, hi, rfl⟩ := h
  obtain ⟨b, hb, hlistener⟩ := List.mem_filterMap.mp (List.getElem_mem hi)
  cases b with
  | view => exact absurd hlistener (by simp [Binding.listener?])
  | resource => exact absurd hlistener (by simp [Binding.listener?])
  | listener =>
      rw [← Option.some.inj hlistener]
      exact ⟨hb, rfl, i, rfl⟩

/-- The key of a listener does not depend on its class. -/
theorem map_key_listenersOf (name : Nat → TypeName) (bindings : List Binding) :
    (listenersOf name bindings).map ListenerTarget.key = bindings.filterMap Binding.key? := by
  induction bindings generalizing name with
  | nil => rfl
  | cons b rest ih =>
      cases b with
      | view => exact ih name
      | resource => exact ih name
      | listener kind method =>
          rw [listenersOf, List.filterMap_cons, Binding.listener?, List.mapIdx_cons, List.map_cons]
          exact congrArg _ (ih fun i => name (i + 1))

end

namespace Draft

/-- What a draft is after some bindings. -/
structure Lays (d : Draft) (target : TypeName) (bindings : List Binding) : Prop where
  target_eq : d.plan.target = target
  binding_eq : d.plan.binding = bindingType target
  views_eq : d.plan.views = ViewTarget.recordAll (bindings.flatMap Binding.demands) []
  fields_eq : d.plan.fields = bindings.flatMap Binding.assignments
  listeners_eq : d.plan.listeners = listenersOf (listenerType target) bindings
  count_eq : d.numbering.count (bindingType target) = d.plan.listeners.length

/-- Adding views changes nothing else in a plan. -/
theorem foldl_addView (ids : List ResourceId) (owner : ViewOwner) (isOptional : Bool) (p : Plan) :
    ids.foldl (fun p id => p.addView id owner isOptional) p
      = { p with views := ViewTarget.recordAll (ids.map fun id => ⟨id, owner, isOptional⟩) p.views } := by
  induction ids generalizing p with
  | nil => rfl
  | cons id rest ih =>
      rw [List.foldl_cons, ih]
      rfl

namespace Lays

variable {d d' : Draft} {target : TypeName} {bindings : List Binding} {b : Binding}

/-- Before the first binding a draft is empty. -/
theorem start (target : TypeName) : (Draft.start target).Lays target [] where
  target_eq := rfl
  binding_eq := rfl
  views_eq := rfl
  fields_eq := rfl
  listeners_eq := rfl
  count_eq := rfl

/-- A listener clashes with the keys of the bindings so far. -/
theorem listens_iff (h : d.Lays target bindings) {name : String} {kind : Kind} :
    d.plan.listens name kind = true ↔ (name, kind) ∈ bindings.filterMap Binding.key? := by
  rw [Plan.listens, h.listeners_eq, ← map_key_listenersOf (listenerType target) bindings]
  simp [List.any_eq_true, List.mem_map, ListenerTarget.key]

/-- A listener that does not clash is added under the next number. -/
theorem addListener (h : d.Lays target bindings) (kind : Kind) (method : Method)
    (ids : List ResourceId) (isOptional : Bool) (resolved : ResolvedListener)
    (arguments : List Nat) (returns : ReturnAdaptation) :
    (d.addListener kind method ids isOptional resolved arguments returns).Lays target
      (bindings ++ [.listener kind method ids isOptional resolved arguments returns]) := by
  unfold Draft.addListener
  rw [Numbering.next, foldl_addView]
  -- The next number is the count of the class, which is the number of listeners so far.
  have hlength := congrArg List.length h.listeners_eq
  rw [length_listenersOf] at hlength
  refine ⟨h.target_eq, h.binding_eq, ?_, ?_, ?_, ?_⟩
  · show ViewTarget.recordAll _ d.plan.views = _
    rw [h.views_eq, List.flatMap_append, List.flatMap_singleton, ViewTarget.recordAll_append]
    rfl
  · show d.plan.fields = _
    rw [h.fields_eq, List.flatMap_append, List.flatMap_singleton]
    simp [Binding.assignments]
  · show d.plan.listeners ++ _ = _
    rw [listenersOf_concat rfl, ← h.listeners_eq, ← hlength, listenerType, ← h.count_eq, h.binding_eq]
  · show Numbering.count (d.numbering.next d.plan.binding).2 _ = (d.plan.listeners ++ [_]).length
    rw [Numbering.count_next, if_pos h.binding_eq, h.binding_eq, h.count_eq, List.length_append]
    rfl

/-- Without a listener a binding adds its views and its assignments. -/
theorem extend_of_none (d : Draft) (hnone : b.listener? = none) :
    d.extend b = .ok
      { d with
        plan :=
          { d.plan with
            views := ViewTarget.recordAll b.demands d.plan.views
            fields := d.plan.fields ++ b.assignments } } := by
  cases b with
  | view => rfl
  | resource => rfl
  | listener => exact absurd hnone (by simp [Binding.listener?])

/-- One more binding extends what the draft is by what the binding adds. -/
theorem extend (h : d.Lays target bindings) (hextend : d.extend b = .ok d') :
    d'.Lays target (bindings ++ [b]) := by
  cases hlistener : b.listener? with
  | none =>
      rw [extend_of_none d hlistener] at hextend
      cases hextend
      refine ⟨h.target_eq, h.binding_eq, ?_, ?_, ?_, h.count_eq⟩
      · show ViewTarget.recordAll b.demands d.plan.views = _
        rw [h.views_eq, List.flatMap_append, List.flatMap_singleton, ViewTarget.recordAll_append]
      · show d.plan.fields ++ b.assignments = _
        rw [h.fields_eq, List.flatMap_append, List.flatMap_singleton]
      · show d.plan.listeners = _
        rw [h.listeners_eq, listenersOf_of_none hlistener]
  | some _ =>
      cases b with
      | view => exact absurd hlistener (by simp [Binding.listener?])
      | resource => exact absurd hlistener (by simp [Binding.listener?])
      | listener kind method ids isOptional resolved arguments returns =>
          simp only [Draft.extend] at hextend
          split at hextend
          · exact absurd hextend (by simp)
          · cases hextend
            exact h.addListener kind method ids isOptional resolved arguments returns

end Lays

end Draft

/-! ### Placing the markers -/

namespace Registry

/-- What ends the construction at a marker: what is wrong with it by
itself, or else that a marker before it has its key. -/
def refusal? (r : Registry) (passed : List (Member × Marker)) (q : Member × Marker) :
    Option BindingError :=
  (r.failure? q.1 q.2).or (r.clash? (r.listenerKeys passed) q.1 q.2)

/-- The bindings of some markers, one for each. -/
def Binds (r : Registry) : List (Member × Marker) → List Binding → Prop :=
  List.Forall₂ fun q b => r.Valid q.1 q.2 b

variable {r : Registry} {member : Member} {marker : Marker} {b : Binding}

/-- A binding has the key of its marker. -/
theorem Valid.key?_eq (h : r.Valid member marker b) : r.listenerKey? member marker = b.key? := by
  cases h with
  | view => rfl
  | resource => rfl
  | listener registered _ _ _ =>
      exact listenerKey?_eq_some_iff.mpr
        ⟨_, rfl, family_eq_ok_iff.mpr ⟨_, registered, rfl⟩, rfl⟩

/-- The keys of some markers are those of their bindings. -/
theorem Binds.keys_eq {passed : List (Member × Marker)} {bindings : List Binding}
    (h : r.Binds passed bindings) : r.listenerKeys passed = bindings.filterMap Binding.key? := by
  induction h with
  | nil => rfl
  | cons hvalid _ ih =>
      rw [listenerKeys, List.filterMap_cons, List.filterMap_cons, hvalid.key?_eq, ← ih, listenerKeys]

/-- Every binding is that of a marker. -/
theorem Binds.exists_of_mem {passed : List (Member × Marker)} {bindings : List Binding}
    (h : r.Binds passed bindings) (hb : b ∈ bindings) : ∃ q ∈ passed, r.Valid q.1 q.2 b := by
  induction h with
  | nil => exact absurd hb (by simp)
  | cons hvalid _ ih =>
      rcases List.mem_cons.mp hb with rfl | hb
      · exact ⟨_, by simp, hvalid⟩
      · obtain ⟨q, hq, hqb⟩ := ih hb
        exact ⟨q, List.mem_cons_of_mem _ hq, hqb⟩

end Registry

namespace Draft

/-- A draft that lays out the bindings of the markers it has passed. -/
def Follows (r : Registry) (target : TypeName) (passed : List (Member × Marker)) (d : Draft) :
    Prop :=
  ∃ bindings, r.Binds passed bindings ∧ d.Lays target bindings

variable {r : Registry} {target : TypeName} {passed : List (Member × Marker)} {d : Draft}
  {q : Member × Marker}

/-- The clash of a valid marker is that of its binding. -/
theorem Follows.extend_of_clash? {member : Member} {marker : Marker} {b : Binding}
    (h : d.Follows r target passed) (hvalid : r.Valid member marker b) :
    match r.clash? (r.listenerKeys passed) member marker with
    | some e => ∃ e', e = .marker e' ∧ d.extend b = .error e'
    | none => ∃ d', d.extend b = .ok d' := by
  obtain ⟨bindings, hbinds, hlays⟩ := h
  -- The keys of the markers are those of the bindings, and these are what the draft looks up.
  simp only [Registry.clash?, hbinds.keys_eq, hvalid.key?_eq]
  cases hvalid with
  | view => exact ⟨_, rfl⟩
  | resource => exact ⟨_, rfl⟩
  | @listener method kind _ _ _ _ registered placed returns matched =>
      simp only [Binding.key?, extend]
      have hlistens : d.plan.listens method.name kind = true
          ↔ (method.name, kind) ∈ bindings.filterMap Binding.key? := hlays.listens_iff
      by_cases htaken : (method.name, kind) ∈ bindings.filterMap Binding.key?
      · rw [if_pos (by simpa using htaken), if_pos (hlistens.mpr htaken)]
        exact ⟨_, rfl, rfl⟩
      · rw [if_neg (by simpa using htaken), if_neg (mt hlistens.mp htaken)]
        exact ⟨_, rfl⟩

/-- A marker that is refused ends the construction. -/
theorem Follows.place_of_refused {e : BindingError} (h : d.Follows r target passed)
    (hrefused : r.refusal? passed q = some e) : d.place r q = .error e := by
  unfold place
  rw [Registry.refusal?] at hrefused
  cases hvalidate : r.validate q.1 q.2 with
  | error e' =>
      rw [Registry.failure?_eq_some_iff.mpr hvalidate] at hrefused
      cases hrefused
      rfl
  | ok b =>
      have hvalid := Registry.valid_of_validate hvalidate
      have hextend := h.extend_of_clash? hvalid
      rw [Registry.failure?_eq_none_iff.mpr ⟨b, hvalid⟩, Option.none_or] at hrefused
      rw [hrefused] at hextend
      obtain ⟨e', rfl, herror⟩ := hextend
      simp only [herror]

/-- A marker that is not refused is placed. -/
theorem Follows.place_of_passed (h : d.Follows r target passed)
    (hpassed : r.refusal? passed q = none) :
    ∃ d', d.place r q = .ok d' ∧ d'.Follows r target (passed ++ [q]) := by
  rw [Registry.refusal?, Option.or_eq_none_iff] at hpassed
  obtain ⟨hfailure, hclash⟩ := hpassed
  obtain ⟨b, hvalid⟩ := Registry.failure?_eq_none_iff.mp hfailure
  have hextend := h.extend_of_clash? hvalid
  rw [hclash] at hextend
  obtain ⟨d', hd'⟩ := hextend
  obtain ⟨bindings, hbinds, hlays⟩ := h
  refine ⟨d', ?_, bindings ++ [b], ?_, hlays.extend hd'⟩
  · simp only [place, hvalid.validate, hd']
  · exact List.rel_append hbinds (.cons hvalid .nil)

end Draft

/-! ### The whole construction -/

namespace Plan

variable {r : Registry} {c : MarkedClass} {p : Plan}

/-- The first marker of a class that is refused, by the failure. -/
def firstRefusal? (r : Registry) (c : MarkedClass) : Option BindingError :=
  (splits [] c.placements).findSome? fun s => r.refusal? s.1 s.2

/-- The construction fails with the first refusal, and without one it
lays out the bindings of all markers. -/
theorem build_run (r : Registry) (c : MarkedClass) :
    (∀ e, firstRefusal? r c = some e → build r c = .error e)
      ∧ (firstRefusal? r c = none →
        ∃ d : Draft, build r c = .ok d.plan ∧ d.Follows r c.name c.placements) := by
  have hstart : (Draft.start c.name).Follows r c.name [] := ⟨[], .nil, .start c.name⟩
  have hrefused : ∀ passed q (d : Draft) e, d.Follows r c.name passed →
      r.refusal? passed q = some e → d.place r q = .error e :=
    fun _ _ _ _ h => h.place_of_refused
  have hpassed : ∀ passed q (d : Draft), d.Follows r c.name passed → r.refusal? passed q = none →
      ∃ d', d.place r q = .ok d' ∧ d'.Follows r c.name (passed ++ [q]) :=
    fun _ _ _ h => h.place_of_passed
  obtain ⟨herror, hok⟩ := foldlM_run hrefused hpassed c.placements [] _ hstart
  constructor
  · intro e he
    rw [build, herror e he]
    rfl
  · intro hnone
    obtain ⟨d, hd, hfollows⟩ := hok hnone
    refine ⟨d, ?_, hfollows⟩
    rw [build, hd]
    rfl

/-- A plan is built when no marker is refused. -/
theorem exists_build_iff : (∃ p, build r c = .ok p) ↔ firstRefusal? r c = none := by
  obtain ⟨herror, hok⟩ := build_run r c
  constructor
  · rintro ⟨p, hp⟩
    cases hrefused : firstRefusal? r c with
    | none => rfl
    | some e =>
        rw [herror e hrefused] at hp
        exact absurd hp (by simp)
  · intro hnone
    obtain ⟨d, hd, -⟩ := hok hnone
    exact ⟨d.plan, hd⟩

/-- A plan that is built lays out the bindings of the markers. -/
theorem exists_bindings_of_build (h : build r c = .ok p) :
    ∃ (d : Draft) (bindings : List Binding),
      d.plan = p ∧ r.Binds c.placements bindings ∧ d.Lays c.name bindings := by
  obtain ⟨d, hd, bindings, hbinds, hlays⟩ := (build_run r c).2 (exists_build_iff.mp ⟨p, h⟩)
  rw [hd] at h
  cases h
  exact ⟨d, bindings, rfl, hbinds, hlays⟩

/-- A plan that is built is for its class. -/
theorem target_eq_of_build (h : build r c = .ok p) :
    p.target = c.name ∧ p.binding = bindingType c.name := by
  obtain ⟨d, bindings, rfl, -, hlays⟩ := exists_bindings_of_build h
  exact ⟨hlays.target_eq, hlays.binding_eq⟩

/-- The plans of a list of classes are for these classes in their order. -/
theorem targets_eq_of_builds {classes : List MarkedClass} {plans : List Plan}
    (h : List.Forall₂ (fun c p => build r c = .ok p) classes plans) :
    plans.map target = classes.map MarkedClass.name
      ∧ plans.map binding = (classes.map MarkedClass.name).map bindingType := by
  induction h with
  | nil => exact ⟨rfl, rfl⟩
  | @cons c p classes plans hbuild _ ih =>
      obtain ⟨htarget, hbinding⟩ := target_eq_of_build hbuild
      simp only [List.map_cons]
      rw [htarget, hbinding, ih.1, ih.2]
      exact ⟨rfl, rfl⟩

/-- Every listener of a plan is what a marker of the class stands for. -/
theorem exists_valid_of_mem_listeners (h : build r c = .ok p) {l : ListenerTarget}
    (hl : l ∈ p.listeners) :
    ∃ q ∈ c.placements, r.Valid q.1 q.2
      (.listener l.kind l.method l.ids l.isOptional l.listener l.arguments l.returns) := by
  obtain ⟨d, bindings, rfl, hbinds, hlays⟩ := exists_bindings_of_build h
  rw [hlays.listeners_eq] at hl
  obtain ⟨hb, -, -⟩ := exists_of_mem_listenersOf hl
  exact hbinds.exists_of_mem hb

/-- The listener of a plan is the one that is registered under its kind. -/
theorem descriptor?_of_mem_listeners (h : build r c = .ok p) {l : ListenerTarget}
    (hl : l ∈ p.listeners) : r.descriptor? l.kind = some (.listener l.listener) := by
  obtain ⟨⟨member, marker⟩, -, hvalid⟩ := exists_valid_of_mem_listeners h hl
  -- The indices of the rule have to be variables before its cases can be told apart.
  generalize hb : Binding.listener l.kind l.method l.ids l.isOptional l.listener l.arguments
    l.returns = b at hvalid
  cases hvalid with
  | view => exact absurd hb (by simp)
  | resource => exact absurd hb (by simp)
  | listener registered _ _ _ =>
      obtain ⟨hkind, -, -, -, hlistener, -, -⟩ := Binding.listener.inj hb
      rw [hkind, hlistener]
      exact registered

/-- So all listeners of a kind in a plan are the one that it has been given. -/
theorem listener_eq_of_mem_listeners (h : build r c = .ok p) {l : ListenerTarget}
    (hl : l ∈ p.listeners) {resolved : ResolvedListener}
    (hd : r.descriptor? l.kind = some (.listener resolved)) : l.listener = resolved := by
  have hsame := (descriptor?_of_mem_listeners h hl).symm.trans hd
  cases hsame
  rfl

/-! ### What a plan refers to is in the plan -/

/-- A view that is looked up is a view of the plan, under the id. -/
theorem mem_of_view? {id : ResourceId} {v : ViewTarget} (h : p.view? id = some v) :
    v ∈ p.views ∧ v.id = id :=
  ⟨List.mem_of_find?_eq_some h, by simpa using List.find?_some h⟩

/-- A plan that holds what its parts refer to: every id of a listener
has a view that is listened to, and that is required unless the listener
is optional; every field that takes a view has one; and every view is
kept in the field of its id. -/
structure Coherent (p : Plan) : Prop where
  listened : ∀ l ∈ p.listeners, ∀ id ∈ l.ids, ∃ v, p.view? id = some v ∧ v.hasListeners = true
    ∧ (l.isOptional = false → v.isRequired = true)
  shown : ∀ field id, .view field id ∈ p.fields → ∃ v ∈ p.views, v.id = id
  kept : ∀ v ∈ p.views, v.field = viewField v.id

/-- A plan that is built holds what its parts refer to. -/
theorem coherent_of_build (h : build r c = .ok p) : p.Coherent := by
  obtain ⟨d, bindings, rfl, -, hlays⟩ := exists_bindings_of_build h
  have hviews := hlays.views_eq
  rw [ViewTarget.recordAll_eq] at hviews
  refine ⟨?_, ?_, ?_⟩
  · intro l hl id hid
    rw [hlays.listeners_eq] at hl
    obtain ⟨hbinding, -, -⟩ := exists_of_mem_listenersOf hl
    have hdemand : ⟨id, .method l.method.name, l.isOptional⟩
        ∈ bindings.flatMap Binding.demands :=
      List.mem_flatMap.mpr ⟨_, hbinding, List.mem_map.mpr ⟨id, hid, rfl⟩⟩
    refine ⟨.ofDemands (bindings.flatMap Binding.demands) id, ?_, ?_, ?_⟩
    · rw [view?, hviews]
      exact ViewTarget.find?_allOfDemands (List.mem_map.mpr ⟨_, hdemand, rfl⟩)
    · exact ViewTarget.hasListeners_ofDemands.mpr ⟨_, hdemand, rfl, rfl⟩
    · intro hoptional
      exact ViewTarget.isRequired_ofDemands.mpr ⟨_, hdemand, rfl, hoptional⟩
  · intro field id hfield
    rw [hlays.fields_eq] at hfield
    obtain ⟨b, hb, hassigns⟩ := List.mem_flatMap.mp hfield
    have hdemand : id ∈ (bindings.flatMap Binding.demands).map Demand.id := by
      cases b with
      | view kind f i isOptional =>
          obtain ⟨rfl, rfl⟩ : field = f ∧ id = i := by simpa [Binding.assignments] using hassigns
          exact List.mem_map.mpr ⟨_, List.mem_flatMap.mpr ⟨_, hb, List.mem_singleton.mpr rfl⟩, rfl⟩
      | resource => simp [Binding.assignments] at hassigns
      | listener => simp [Binding.assignments] at hassigns
    refine ⟨.ofDemands (bindings.flatMap Binding.demands) id, ?_, rfl⟩
    rw [hviews]
    exact List.mem_map_of_mem (List.mem_eraseDups.mpr hdemand)
  · intro v hv
    rw [hviews] at hv
    obtain ⟨id, -, rfl⟩ := List.mem_map.mp hv
    rfl

end Plan

end BindingCompiler
