import BindingCompiler.Proofs.ClassPath.Assignability
import BindingCompiler.Proofs.ClassPath.Locality
import BindingCompiler.Proofs.Registry.Acceptance
import BindingCompiler.Proofs.Registry.Registration
import BindingCompiler.Proofs.Source.BindingClass
import BindingCompiler.Proofs.Source.Dispatch

/-!
# `BindingCompiler.Proofs.Source.Receivers`: the views that listeners are attached to

Every call that attaches or detaches a listener is made on a view, cast
to the owner of the listener. The cast is allowed if the owner is an
interface, or a class in line with `android.view.View`, above or below
it.

`viewCastsTo_owner_iff` says what an accepted spec ensures of its owner:
it is a declared public class or interface. That it is in line with the
views is not ensured. Unless the owner or the listener inherits from
`android.view.View`, the spec is accepted whatever that is declared as.
-/

set_option autoImplicit false

namespace BindingCompiler

open Source

namespace ClassPath

/-- A view can be cast to the type: it is an interface, or castable from the view type. -/
def ViewCastsTo (cp : ClassPath) (t : TypeName) : Prop :=
  cp.isInterface t = true ∨ cp.isCastable .view t = true

variable {cp : ClassPath}

/-- A view can be cast to the interfaces, and to the classes that lie in
a line of the hierarchy with it. -/
theorem viewCastsTo_iff {t : TypeName} (hitem : t.component? = none)
    (hprimitive : t.isPrimitive = false) :
    cp.ViewCastsTo t
      ↔ cp.isInterface t = true ∨ t = .object ∨ cp.Reaches t .view ∨ cp.Reaches .view t := by
  have hview : TypeName.view.component? = none ∧ TypeName.view.isPrimitive = false := by
    decide
  have hroot : TypeName.view ≠ .object := by decide
  rw [ViewCastsTo, isCastable_iff_reaches hview.1 hitem hview.2 hprimitive]
  simp only [hroot, or_false, or_comm (a := cp.Reaches .view t)]

end ClassPath

namespace Source

/-- A view as its owner's type: itself, or a cast. -/
def viewAs (owner : TypeName) (id : ResourceId) : Expr :=
  if owner = .view then .own (viewField id) else .cast owner.sourceName (.own (viewField id))

variable {p : Plan} {l : ListenerTarget}

/-- The calls for a listener are made on the views of its ids, as the owner's type. -/
theorem receivers_of_coherent (h : p.Coherent) (hl : l ∈ p.listeners)
    (hprimitive : l.listener.spec.owner.isPrimitive = false) :
    ((attach p l ++ detach p l).flatMap Stmt.ownCalls).map OwnCall.receiver
      = (l.ids ++ l.ids).map (viewAs l.listener.spec.owner) := by
  have hviewAs : ∀ id, converted (.own (viewField id)) .view l.listener.spec.owner
      = viewAs l.listener.spec.owner id := by
    intro id
    rw [converted_eq fun hp => absurd (hp.symm.trans hprimitive) (by decide), viewAs]
    simp only [eq_comm]
  have hcalls : ∀ (method : String) {argument : Expr}, IsPlain argument →
      ((registration p l method argument).flatMap Stmt.ownCalls).map OwnCall.receiver
        = l.ids.map (viewAs l.listener.spec.owner) := by
    intro method argument hplain
    rw [registration_eq h hl, List.flatMap_map]
    simp only [ownCalls_callStatement hplain, ← List.map_eq_flatMap, List.map_map]
    refine List.map_congr_left fun id _ => ?_
    exact hviewAs id
  -- The two halves differ in the method and in the argument, which the receiver does not depend on.
  rw [List.flatMap_append, List.map_append, List.map_append]
  exact congrArg₂ (· ++ ·) (hcalls _ (isPlain_own l.field)) (hcalls _ (isPlain_detachArgument l))

end Source

open ClassPath

/-- The owner of a listener spec that is accepted is a public class or
interface, which is declared. A view can be cast to it exactly if it is
an interface or in line with the views. But no check is about the views:
where neither the owner nor the listener inherits from
`android.view.View`, the spec is accepted with any declaration of that.

Wherever the kind has the descriptor of this registration, all calls
that attach and detach its listeners are made on views that are cast to
the owner, if that is not the view type itself; and these calls are what
the source has written for them. -/
theorem viewCastsTo_owner_iff {r next : Registry} {kind : Kind} {spec : ListenerSpec}
    (h : r.registerListener kind spec = .ok next) :
    (∃ owner, r.classPath.get? spec.owner = some owner ∧ owner.isPublic = true)
      ∧ (r.classPath.ViewCastsTo spec.owner
        ↔ r.classPath.isInterface spec.owner = true ∨ spec.owner = .object
          ∨ r.classPath.Reaches spec.owner .view ∨ r.classPath.Reaches .view spec.owner)
      ∧ (¬ r.classPath.Reaches spec.owner .view → ¬ r.classPath.Reaches spec.listener .view →
        ∀ view : ClassType, view.name = .view →
          (r.declare view).registerListener kind spec = .ok (next.declare view))
      ∧ ∃ resolved, next.descriptor? kind = some (.listener resolved)
        ∧ ∀ (later : Registry) (c : MarkedClass) (p : Plan),
          later.descriptor? kind = some (.listener resolved) → Plan.build later c = .ok p →
          ∀ l ∈ p.listeners, l.kind = kind →
            ((attach p l ++ detach p l).flatMap Stmt.ownCalls).map OwnCall.receiver
                = (l.ids ++ l.ids).map (viewAs spec.owner)
              ∧ (attach p l ++ detach p l).flatMap Stmt.layout
                = registrationCalls p l l.listener.spec.setter (.own l.field)
                  ++ registrationCalls p l l.listener.spec.unsetter (detachArgument l) := by
  obtain ⟨resolved, hresolved, rfl⟩ := Registry.registerListener_eq_ok_iff.mp h
  obtain ⟨owner, listener, hresolves⟩ := resolves_of_resolveListener hresolved
  obtain ⟨hitem, hprimitive⟩ := roleFault?_eq_none_iff.mp hresolves.owner_isClass
  refine ⟨⟨owner, hresolves.owner_declared, hresolves.owner_isPublic⟩,
    viewCastsTo_iff hitem hprimitive, ?_, resolved, ?_, ?_⟩
  · -- The checks see nothing of a class that the two types do not reach.
    rintro howner hlistener view hview
    rw [← hview] at howner hlistener
    have hsame : (r.declare view).classPath.resolveListener spec
        = r.classPath.resolveListener spec :=
      resolveListener_congr (keepsFrom_insert howner) (keepsFrom_insert hlistener)
    exact Registry.registerListener_eq_ok_iff.mpr ⟨resolved, hsame.trans hresolved, rfl⟩
  · rw [Registry.descriptor?_enter, if_pos rfl]
  · rintro later c p hlater hbuild l hl rfl
    -- The kind has one descriptor, so the plan took its listener from there.
    have hspec : l.listener.spec = spec := by
      rw [Plan.listener_eq_of_mem_listeners hbuild hl hlater, hresolves.spec_eq]
    rw [← hspec] at hprimitive ⊢
    refine ⟨receivers_of_coherent (Plan.coherent_of_build hbuild) hl hprimitive, ?_⟩
    rw [List.flatMap_append, registrationCalls_eq, registrationCalls_eq]
    rfl

/-! ### A listener on a class that is no view, and on one that is -/

namespace Ticker

open Registry

/-- A listener that is told of every tick. -/
def tick : TypeName := ⟨"com.example.Tick$Listener"⟩

/-- Its method. -/
def onTick : Method := Android.callback "onTick" [] .void

/-- A class that ticks and is no view. -/
def ticker : ClassType :=
  { ClassType.plain ⟨"com.example.Ticker"⟩ with methods := [Android.setter "setOnTick" tick] }

/-- A view that ticks. -/
def dial : ClassType :=
  { ClassType.plain ⟨"com.example.Dial"⟩ with
    parent? := some .view, methods := [Android.setter "setOnTick" tick] }

/-- The classes around the listener. -/
def types : List ClassType :=
  [.plain .object, .plain .view, ticker, dial, Android.listener tick onTick]

/-- The class path of these classes. -/
def classPath : ClassPath := ClassPath.empty.insertAll types

/-- How the listener is attached to an owner. -/
def spec (owner : ClassType) : ListenerSpec :=
  { owner := owner.name, listener := tick, setter := "setOnTick" }

/-- What the spec stands for. -/
def resolved (owner : ClassType) : ResolvedListener :=
  ⟨spec owner, Android.setter "setOnTick" tick, onTick, [], true⟩

/-- The kind of the listener. -/
def kind : Kind := ⟨"OnTick"⟩

/-- The registry of the kind. -/
def registry (owner : ClassType) : Registry :=
  (ofClassPath classPath).enter kind (.listener (resolved owner))

/-- A method that is called at every tick. -/
def refresh : Method := { name := "refresh", parameters := [], returns := .void }

/-- A class with that method. -/
def sample : MarkedClass :=
  { name := ⟨"com.example.Sample"⟩
    members := [⟨.method refresh, [⟨kind, [⟨1⟩], false⟩]⟩] }

/-- Both classes have the one setter. -/
theorem findMethods_setOnTick :
    ∀ owner ∈ [ticker, dial],
      classPath.findMethods owner.name "setOnTick" = [Android.setter "setOnTick" tick] := by
  have hticker : classPath.hierarchy ticker.name = [ticker, .plain .object] :=
    explore_of_within 3 (by decide)
  have hdial : classPath.hierarchy dial.name = [dial, .plain .view, .plain .object] :=
    explore_of_within 4 (by decide)
  simp only [List.forall_mem_cons, findMethods, hticker, hdial]
  decide

/-- Both owners are accepted. -/
theorem registerListener_spec {owner : ClassType} (howner : owner ∈ [ticker, dial]) :
    (ofClassPath classPath).registerListener kind (spec owner) = .ok (registry owner) := by
  have hnames : (types.map ClassType.name).Nodup := by decide
  have hchecks : ∀ owner ∈ [ticker, dial], owner ∈ types ∧ owner.isPublic = true
      ∧ nameFault? (spec owner) = none ∧ (spec owner).unsetsWithNull = true
      ∧ roleFault? .owner owner.name = none := by decide
  obtain ⟨hmem, hpublic, hnamed, hunset, hrole⟩ := hchecks owner howner
  have hlistener : classPath.get? tick = some (Android.listener tick onTick) :=
    get?_insertAll_of_mem hnames (by decide) rfl
  have htick : roleFault? .listener tick = none := by decide
  have hresolved : classPath.resolveListener (spec owner) = .ok (resolved owner) :=
    resolveListener_listener hnamed hunset hrole htick
      (get?_insertAll_of_mem hnames hmem rfl) hpublic hlistener rfl (by decide) rfl
      (findMethods_setOnTick owner howner)
  exact registerListener_eq_ok_iff.mpr ⟨resolved owner, hresolved, rfl⟩

/-- The kind has what its spec stands for. -/
theorem descriptor?_kind (owner : ClassType) :
    (registry owner).descriptor? kind = some (.listener (resolved owner)) := by
  rw [registry, descriptor?_enter, if_pos rfl]

/-- The class plans, with one listener on one view. -/
theorem build_sample (owner : ClassType) :
    ∃ p l, Plan.build (registry owner) sample = .ok p ∧ p.listeners = [l] ∧ l.kind = kind
      ∧ l.ids = [⟨1⟩] ∧ l.listener = resolved owner := by
  have hids : ∀ id ∈ [(⟨1⟩ : ResourceId)], id.isWellFormed = true := by decide
  have hvalid := valid_of_no_parameters (descriptor?_kind owner) "refresh" false (by simp) hids
  rw [Plan.build, show sample.placements = [(.method refresh, ⟨kind, [⟨1⟩], false⟩)] from rfl]
  simp only [List.foldlM_cons, List.foldlM_nil, Draft.place, refresh, hvalid.validate]
  exact ⟨_, _, rfl, rfl, rfl, rfl, rfl⟩

/-- A view is no ticker, and a ticker is no view. -/
theorem isCastable_view_ticker : classPath.isCastable .view ticker.name = false := by
  have hview : classPath.hierarchy .view = [.plain .view, .plain .object] :=
    explore_of_within 3 (by decide)
  have hticker : classPath.hierarchy ticker.name = [ticker, .plain .object] :=
    explore_of_within 3 (by decide)
  refine isCastable_eq_false (by decide) (by decide) (by decide) ?_ ?_
  · rw [hview]
    decide
  · rw [hticker]
    decide

/-- An owner is accepted that a view cannot be cast to, and views are cast to it. -/
theorem not_viewCastsTo_ticker :
    (ofClassPath classPath).registerListener kind (spec ticker) = .ok (registry ticker)
      ∧ ¬ (classPath.isInterface ticker.name = true
        ∨ classPath.isCastable .view ticker.name = true)
      ∧ ∃ p l, Plan.build (registry ticker) sample = .ok p ∧ p.listeners = [l]
        ∧ ((attach p l ++ detach p l).flatMap Stmt.ownCalls).map OwnCall.receiver
          = [.cast "com.example.Ticker" (.own (viewField ⟨1⟩)),
            .cast "com.example.Ticker" (.own (viewField ⟨1⟩))] := by
  obtain ⟨p, l, hbuild, hlisteners, -, hids, hlistener⟩ := build_sample ticker
  have hinterface : classPath.isInterface ticker.name = false := by decide
  refine ⟨registerListener_spec (by simp), ?_, p, l, hbuild, hlisteners, ?_⟩
  · rw [hinterface, isCastable_view_ticker]
    decide
  · have hprimitive : l.listener.spec.owner.isPrimitive = false := by
      rw [hlistener]
      decide
    rw [receivers_of_coherent (Plan.coherent_of_build hbuild) (by simp [hlisteners]) hprimitive,
      hids, hlistener]
    have hview : viewAs ticker.name ⟨1⟩ = .cast "com.example.Ticker" (.own (viewField ⟨1⟩)) := by
      have hname : ticker.name.sourceName = "com.example.Ticker" := by decide
      rw [viewAs, if_neg (by decide), hname]
    show [viewAs ticker.name ⟨1⟩, viewAs ticker.name ⟨1⟩] = _
    rw [hview]

/-- A view can be cast to the owner that is a view. -/
theorem viewCastsTo_owner_iff_dial :
    (ofClassPath classPath).registerListener kind (spec dial) = .ok (registry dial)
      ∧ classPath.Reaches dial.name .view ∧ classPath.ViewCastsTo dial.name := by
  have hregistered := registerListener_spec (show dial ∈ [ticker, dial] by simp)
  obtain ⟨-, hcast, -, -⟩ := viewCastsTo_owner_iff hregistered
  have hreaches : classPath.Reaches dial.name .view :=
    .single ⟨dial, by decide, by decide⟩
  exact ⟨hregistered, hreaches, hcast.mpr (.inr (.inr (.inl hreaches)))⟩

end Ticker

end BindingCompiler
