import BindingCompiler.Proofs.Plan.Construction
import BindingCompiler.Proofs.Registry.Registration
import BindingCompiler.Proofs.Source.Tree

/-!
# `BindingCompiler.Proofs.Source.ListenerClass`: generated listeners are complete

A listener kind is registered when its spec passes all checks
(`ClassPath.Complete`). From then on, and as long as the kind keeps its
descriptor, every plan gives its listeners the same callback and stubs,
and the class that is generated for each of them overrides all abstract
methods of the listener type, each once
(`overrides_perm_of_registerListener`).

What a class overrides is said twice: of its tree, as the headings of
its methods (`ClassDecl.overrides`), and of the lines that are written
for it, as those that open a block behind a line `@Override`
(`overridingLines`). The second is a walk over the calls of the writer
that knows nothing of the tree.
-/

set_option autoImplicit false

namespace BindingCompiler

/-! ### What a class overrides -/

namespace Source

/-- A method as the source of a class declares it. -/
structure Heading where
  returns : String
  name : String
  parameters : List Parameter
  deriving DecidableEq, Repr

/-- The heading under which a method is implemented, with numbered parameters. -/
def Heading.of (m : Method) : Heading :=
  ⟨m.returns.sourceName, m.name, m.parameters.mapIdx fun i t => ⟨t.sourceName, "p" ++ toString i⟩⟩

/-- The line of a heading, up to the brace. -/
def Heading.text (h : Heading) : String :=
  "public " ++ h.returns ++ " " ++ h.name ++ "("
    ++ String.intercalate ", " (h.parameters.map fun p => "final " ++ p.type ++ " " ++ p.name)
    ++ ")"

/-- The heading of a public method that overrides another. -/
def Body.override? : Body → Option Heading
  | .method "Override" "public" returns name parameters _ => some ⟨returns, name, parameters⟩
  | _ => none

/-- The public methods of a class that override others. -/
def ClassDecl.overrides (c : ClassDecl) : List Heading := c.bodies.filterMap Body.override?

/-- An implementation overrides the method that it implements. -/
theorem override?_implementation (m : Method) (statements : List Stmt) :
    (implementation m statements).override? = some (.of m) :=
  rfl

/-- The class of a listener overrides the callback and the stubs. -/
theorem overrides_listenerClass (target : TypeName) (l : ListenerTarget) :
    (listenerClass target l).overrides
      = (l.listener.callback :: l.listener.stubs).map Heading.of := by
  have hstubs : (l.listener.stubs.map fun m => implementation m (stubStatements m)).filterMap
      Body.override? = l.listener.stubs.map Heading.of := by
    rw [List.filterMap_map, ← List.filterMap_eq_map]
    rfl
  show (_ :: _ :: l.listener.stubs.map _).filterMap Body.override? = _
  rw [List.filterMap_cons_none rfl, List.filterMap_cons_some (override?_implementation _ _), hstubs]
  rfl

/-! ### What is written of it -/

open Layout

/-- The lines that open a block right after a line `@Override`, without the brace. `marked` says
whether the line before was such a line. -/
def overridingLines (marked : Bool) : List Item → List String
  | [] => []
  | .line text :: rest => overridingLines (text == "@Override") rest
  | .opening head :: rest => (if marked then [head] else []) ++ overridingLines false rest
  | .blank :: rest | .closing :: rest => overridingLines false rest

/-- Statements that open no block are passed over, up to the brace behind them. -/
theorem overridingLines_statements {statements : List Stmt}
    (h : ∀ s ∈ statements, ∃ text, s.layout = [.line text]) (marked : Bool) (rest : List Item) :
    overridingLines marked (statements.flatMap Stmt.layout ++ .closing :: rest)
      = overridingLines false rest := by
  induction statements generalizing marked with
  | nil => rfl
  | cons s statements ih =>
      obtain ⟨text, htext⟩ := h s List.mem_cons_self
      rw [List.flatMap_cons, htext]
      show overridingLines (text == "@Override")
        (statements.flatMap Stmt.layout ++ .closing :: rest) = _
      exact ih (fun t ht => h t (List.mem_cons_of_mem _ ht)) _

/-- An implementation is one such line, and nothing of its body is. -/
theorem overridingLines_implementation (m : Method) {statements : List Stmt}
    (h : ∀ s ∈ statements, ∃ text, s.layout = [.line text]) (rest : List Item) :
    overridingLines false ((implementation m statements).layout ++ rest)
      = (Heading.of m).text :: overridingLines false rest := by
  have hhead : "public" ++ " " ++ m.returns.sourceName ++ " " ++ m.name
      ++ parameterList (callbackParameters m) = (Heading.of m).text := by
    rw [Heading.text, parameterList, ← String.append_assoc, ← String.append_assoc]
    rfl
  have hbody : (implementation m statements).layout ++ rest
      = .line "@Override" :: .opening (Heading.of m).text
        :: (statements.flatMap Stmt.layout ++ .closing :: rest) := by
    rw [implementation, Body.layout, hhead, block]
    simp only [List.append_assoc, List.cons_append, List.nil_append]
    rfl
  rw [hbody]
  show [(Heading.of m).text]
    ++ overridingLines false (statements.flatMap Stmt.layout ++ .closing :: rest) = _
  rw [overridingLines_statements h]
  rfl

/-- What is written for the class of a listener overrides the callback and the stubs. -/
theorem overridingLines_listenerClassCalls (target : TypeName) (l : ListenerTarget) :
    overridingLines false (listenerClassCalls target l)
      = (l.listener.callback :: l.listener.stubs).map fun m => (Heading.of m).text := by
  have hcallback : ∀ s ∈ callbackStatements l, ∃ text, s.layout = [.line text] := by
    intro s hs
    unfold callbackStatements at hs
    split at hs <;> simp only [List.mem_cons, List.not_mem_nil, or_false] at hs
    all_goals
      rcases hs with rfl | rfl <;> exact ⟨_, rfl⟩
  have hstub : ∀ m, ∀ s ∈ stubStatements m, ∃ text, s.layout = [.line text] := by
    intro m s hs
    unfold stubStatements at hs
    split at hs
    · exact absurd hs (by simp)
    · rw [List.mem_singleton.mp hs]
      exact ⟨_, rfl⟩
  have hstubs : overridingLines false
      ((l.listener.stubs.flatMap fun m => Item.blank :: stubCalls m) ++ [.closing])
        = l.listener.stubs.map fun m => (Heading.of m).text := by
    induction l.listener.stubs with
    | nil => rfl
    | cons m stubs ih =>
        rw [List.flatMap_cons, List.append_assoc, stubCalls_eq]
        show overridingLines false ((implementation m (stubStatements m)).layout ++ _) = _
        rw [overridingLines_implementation m (hstub m), ih, List.map_cons]
  rw [listenerClassCalls, List.append_assoc, List.append_assoc, callbackCalls_eq]
  -- The class, its field and its constructor have no such line.
  show overridingLines false ((implementation l.listener.callback (callbackStatements l)).layout
    ++ _) = _
  rw [overridingLines_implementation _ hcallback, hstubs, List.map_cons]

/-- The class of each listener is written into the source of the plan. -/
theorem listenerClassCalls_infix {p : Plan} {l : ListenerTarget} (hl : l ∈ p.listeners) :
    listenerClassCalls p.target l <:+: bindingCalls p := by
  have hblank : listenerClassCalls p.target l <:+: .blank :: listenerClassCalls p.target l :=
    (List.suffix_cons _ _).isInfix
  have hclass : .blank :: listenerClassCalls p.target l
      <:+: p.listeners.flatMap fun l => .blank :: listenerClassCalls p.target l := by
    rw [List.flatMap_def]
    exact List.infix_of_mem_flatten (List.mem_map_of_mem hl)
  exact (hblank.trans hclass).trans (List.suffix_append _ _).isInfix

end Source

/-! ### What a registration ensures -/

/-- What a listener spec stands for once it is accepted: all abstract
methods of the listener type, one of which is the callback, and the
owner's only methods to attach and detach it. -/
structure ClassPath.Complete (cp : ClassPath) (spec : ListenerSpec) (l : ResolvedListener) :
    Prop where
  spec_eq : l.spec = spec
  covers : (l.callback :: l.stubs).Perm (cp.abstractMethods spec.listener)
  distinct : ((l.callback :: l.stubs).map Method.signature).Nodup
  supported : ∀ m ∈ l.callback :: l.stubs, m.returns = .void ∨ m.returns = .boolean
  named : ∀ name, spec.callback? = some name →
    (cp.abstractMethods spec.listener).filter (fun m => m.name == name) = [l.callback]
  unnamed : spec.callback? = none → l.stubs = []
  attaches : cp.OnlySetter spec.owner spec.listener spec.setter l.setter
  detaches : spec.unsetter ≠ spec.setter →
    ∃ m, cp.OnlySetter spec.owner spec.listener spec.unsetter m

/-- A spec that passes all checks is complete. -/
theorem ClassPath.Resolves.complete {cp : ClassPath} {spec : ListenerSpec} {l : ResolvedListener}
    {owner listener : ClassType} (h : cp.Resolves spec l owner listener) : cp.Complete spec l := by
  have hperm := perm_of_pickCallback h.picked
  refine ⟨h.spec_eq, hperm, ?_, h.supported, ?_, ?_, onlySetter_of_findSetter h.attaches, ?_⟩
  · exact (hperm.map Method.signature).nodup_iff.mpr (cp.nodup_abstractMethods spec.listener)
  · intro name hname
    have hpicked := h.picked
    rw [hname] at hpicked
    exact filter_of_pickCallback hpicked
  · intro hname
    have hpicked := h.picked
    rw [hname] at hpicked
    exact stubs_of_pickCallback hpicked
  · intro hother
    have hnull : spec.unsetsWithNull = false := by simpa [ListenerSpec.unsetsWithNull] using hother
    obtain ⟨m, hm⟩ := h.detaches hnull
    exact ⟨m, onlySetter_of_findSetter hm⟩

/-- A listener kind that is registered stands for a complete listener.
Wherever the kind has this descriptor, all listeners of the kind in a
plan are this one, and their classes override the abstract methods of
the listener type, each once. The calls that write such a class are made
for the source of the plan, one after the other, and the lines that open
a block behind `@Override` are those of these methods. -/
theorem overrides_perm_of_registerListener {r next : Registry} {kind : Kind} {spec : ListenerSpec}
    (h : r.registerListener kind spec = .ok next) :
    ∃ resolved, next.descriptor? kind = some (.listener resolved)
      ∧ r.classPath.Complete spec resolved
      ∧ ∀ (later : Registry) (c : MarkedClass) (p : Plan),
        later.descriptor? kind = some (.listener resolved) → Plan.build later c = .ok p →
        ∀ l ∈ p.listeners, l.kind = kind →
          l.listener = resolved
            ∧ Source.listenerClass p.target l ∈ (Source.bindingFile p).classes
            ∧ (Source.listenerClass p.target l).overrides.Perm
              ((r.classPath.abstractMethods spec.listener).map Source.Heading.of)
            ∧ Source.listenerClassCalls p.target l <:+: Source.bindingCalls p
            ∧ (Source.overridingLines false (Source.listenerClassCalls p.target l)).Perm
              ((r.classPath.abstractMethods spec.listener).map fun m =>
                (Source.Heading.of m).text) := by
  unfold Registry.registerListener at h
  split at h
  · exact absurd h (by simp)
  · rename_i resolved hresolved
    cases h
    obtain ⟨_, _, hresolves⟩ := ClassPath.resolves_of_resolveListener hresolved
    refine ⟨resolved, ?_, hresolves.complete, ?_⟩
    · rw [Registry.descriptor?_enter, if_pos rfl]
    · rintro later c p hlater hbuild l hl rfl
      -- The kind has one descriptor, so the plan took its listener from there.
      have hsame := Plan.descriptor?_of_mem_listeners hbuild hl
      rw [hlater] at hsame
      obtain rfl : resolved = l.listener := by
        cases hsame
        rfl
      refine ⟨rfl, List.mem_cons_of_mem _ (List.mem_map_of_mem hl), ?_,
        Source.listenerClassCalls_infix hl, ?_⟩
      · rw [Source.overrides_listenerClass]
        exact hresolves.complete.covers.map _
      · rw [Source.overridingLines_listenerClassCalls]
        exact hresolves.complete.covers.map _

/-! ### A listener with two methods -/

namespace Swipe

/-- The method that the marker is bound to. -/
def onLeft : Method :=
  { name := "onLeft", parameters := [.view], returns := .boolean, isAbstract := true }

/-- The other method of the listener. -/
def onRight : Method := { name := "onRight", parameters := [], returns := .void, isAbstract := true }

/-- The listener type. -/
def listener : ClassType :=
  { ClassType.interface ⟨"com.example.OnSwipe"⟩ with methods := [onLeft, onRight] }

/-- A method that takes the listener. -/
def takes (name : String) : Method := { name, parameters := [listener.name], returns := .void }

/-- The views that the listener is attached to, and detached from by another method. -/
def view : ClassType :=
  { ClassType.plain .view with methods := [takes "addOnSwipe", takes "removeOnSwipe"] }

/-- The classes around the listener. -/
def classPath : ClassPath := ClassPath.empty.insertAll [.plain .object, listener, view]

/-- The spec of the listener. -/
def spec : ListenerSpec :=
  { owner := .view
    listener := listener.name
    setter := "addOnSwipe"
    unsetter? := some "removeOnSwipe"
    callback? := some "onLeft" }

/-- What the spec stands for. -/
def resolved : ResolvedListener :=
  { spec, setter := takes "addOnSwipe", callback := onLeft, stubs := [onRight], isInterface := true }

/-- The kind of the listener. -/
def kind : Kind := ⟨"OnSwipe"⟩

/-- The registry with the kind. -/
def registry : Registry := (Registry.ofClassPath classPath).enter kind (.listener resolved)

/-- The method that is bound. -/
def turnPage : Method := { name := "turnPage", parameters := [], returns := .void }

/-- A class with one listener. -/
def sample : MarkedClass :=
  { name := ⟨"com.example.Sample"⟩, members := [⟨.method turnPage, [⟨kind, [⟨1⟩], false⟩]⟩] }

/-- The listener in the plan of the class. -/
def target : ListenerTarget :=
  { className := listenerType sample.name 0
    field := listenerField turnPage.name kind
    kind
    method := turnPage
    ids := [⟨1⟩]
    isOptional := false
    listener := resolved
    arguments := []
    returns := .returnFalse }

/-- The listener type leaves both of its methods open. -/
theorem abstractMethods_listener : classPath.abstractMethods listener.name = [onLeft, onRight] := by
  have hchain : classPath.superclasses listener.name = [listener] :=
    ClassPath.superclasses_of_parent_none (by decide) rfl
  have hwalk : classPath.hierarchy listener.name = [listener] :=
    ClassPath.explore_of_within 1 (by decide)
  rw [ClassPath.abstractMethods, hchain, hwalk]
  decide

/-- Views have one method of either name, which takes the listener. -/
theorem findSetter_view {name : String}
    (h : (view.methods.filter fun m => m.name == name) = [takes name]) :
    classPath.findSetter .view listener.name name = .ok (takes name) := by
  have hwalk : classPath.hierarchy .view = [view, .plain .object] :=
    ClassPath.explore_of_within 3 (by decide)
  have hfound : classPath.findMethods .view name = [takes name] := by
    rw [ClassPath.findMethods, hwalk, List.flatMap_cons, h]
    rfl
  have hself : classPath.isSubclassOf listener.name listener.name = true := by
    simp [ClassPath.isSubclassOf]
  rw [ClassPath.findSetter, hfound]
  simp [takes, hself]

/-- The spec is accepted. -/
theorem resolveListener_spec : classPath.resolveListener spec = .ok resolved := by
  have howner : classPath.declared .owner spec.owner = .ok view := by decide
  have hlistener : classPath.declared .listener spec.listener = .ok listener := by decide
  have habstract : classPath.abstractMethods spec.listener = [onLeft, onRight] :=
    abstractMethods_listener
  have hattach : classPath.findSetter spec.owner spec.listener spec.setter
      = .ok (takes "addOnSwipe") := findSetter_view (by decide)
  have hdetach : classPath.findSetter spec.owner spec.listener spec.unsetter
      = .ok (takes "removeOnSwipe") := findSetter_view (by decide)
  have hnamed : ClassPath.nameFault? spec = none := by decide
  simp only [ClassPath.resolveListener, hnamed, howner, hlistener, habstract, hattach, hdetach]
  rfl

/-- The kind is registered. -/
theorem registerListener_kind :
    (Registry.ofClassPath classPath).registerListener kind spec = .ok registry := by
  have hresolve : (Registry.ofClassPath classPath).classPath.resolveListener spec = .ok resolved :=
    resolveListener_spec
  exact Registry.registerListener_eq_ok_iff.mpr ⟨resolved, hresolve, rfl⟩

/-- The listener is in the plan of the class. -/
theorem build_sample :
    ∃ p, Plan.build registry sample = .ok p ∧ p.target = sample.name ∧ p.listeners = [target] := by
  have hregistered : registry.descriptor? kind = some (.listener resolved) := by
    rw [registry, Registry.descriptor?_enter, if_pos rfl]
  have hvalid : registry.Valid (.method turnPage) ⟨kind, [⟨1⟩], false⟩
      (.listener kind turnPage [⟨1⟩] false resolved [] .returnFalse) :=
    .listener hregistered ⟨by simp, by decide, rfl, by simp, by decide⟩ (by decide) rfl
  rw [Plan.build, show sample.placements = [(.method turnPage, ⟨kind, [⟨1⟩], false⟩)] from rfl]
  simp only [List.foldlM_cons, List.foldlM_nil, Draft.place, hvalid.validate]
  exact ⟨_, rfl, rfl, rfl⟩

/-- The class of the listener overrides both methods of the listener type. -/
theorem overrides_perm_of_registerListener_swipe :
    (Registry.ofClassPath classPath).registerListener kind spec = .ok registry
      ∧ ∃ p, Plan.build registry sample = .ok p ∧ target ∈ p.listeners
        ∧ Source.listenerClass p.target target ∈ (Source.bindingFile p).classes
        ∧ (Source.listenerClass p.target target).overrides.Perm
          [⟨"boolean", "onLeft", [⟨"android.view.View", "p0"⟩]⟩, ⟨"void", "onRight", []⟩]
        ∧ (Source.overridingLines false (Source.listenerClassCalls p.target target)).Perm
          ["public boolean onLeft(final android.view.View p0)", "public void onRight()"] := by
  obtain ⟨p, hbuild, htarget, hlisteners⟩ := build_sample
  obtain ⟨l, hregistered, -, hplans⟩ := overrides_perm_of_registerListener registerListener_kind
  have hmem : target ∈ p.listeners := by
    rw [hlisteners]
    simp
  obtain ⟨-, hclass, hperm, -, hlines⟩ :=
    hplans registry sample p hregistered hbuild target hmem rfl
  have habstract : (Registry.ofClassPath classPath).classPath.abstractMethods spec.listener
      = [onLeft, onRight] := abstractMethods_listener
  rw [habstract] at hperm hlines
  exact ⟨registerListener_kind, p, hbuild, hmem, hclass, hperm, hlines⟩

end Swipe

end BindingCompiler
