import BindingCompiler.Proofs.Plan.Construction
import Mathlib.Data.List.Induction

/-!
# `BindingCompiler.Proofs.Plan.Contents`: a plan is what the markers say

A plan is built by steps: a view is found or added, owners are merged
into it, listener classes are numbered as they come. `Transcribes` says
what the plan is without these steps, in terms of the markers of the
class in their order: the views are the ids of the view and listener
markers, each once; the assignments and the listeners correspond one to
one to the markers of their families.

* `Valid.demands_eq`, `Valid.assigns`, `Valid.listens`: what one valid
  marker adds to each part of the plan.
* `Binds.demands_eq`, `Binds.forall₂_assigns`, `Binds.forall₂_listens`:
  what all markers of a class add, by induction over them.
* `transcribes_of_build`: every plan that is built transcribes its class.
-/

set_option autoImplicit false

namespace BindingCompiler

/-! ### Lists without repetitions -/

/-- A value that follows several times is kept as if it followed once. -/
theorem eraseDups_append_replicate {α : Type} [BEq α] [LawfulBEq α] (l : List α) (a : α) (n : Nat) :
    (l ++ List.replicate (n + 1) a).eraseDups = (l ++ [a]).eraseDups := by
  induction n with
  | zero => rfl
  | succ n ih =>
      have hlast : (l ++ List.replicate (n + 1) a).contains a = true := by simp
      rw [List.replicate_succ', ← List.append_assoc, eraseDups_concat, if_pos hlast, ih]

/-- Of a list that repeats each value a number of times, the values that
occur at all are kept. -/
theorem eraseDups_flatMap_const {α β γ : Type} [BEq γ] [LawfulBEq γ] (items : α → List β)
    (value : α → γ) (l : List α) :
    (l.flatMap fun a => (items a).map fun _ => value a).eraseDups
      = ((l.filter fun a => !(items a).isEmpty).map value).eraseDups := by
  induction l using List.reverseRecOn with
  | nil => rfl
  | append_singleton l a ih =>
      rw [List.flatMap_append, List.flatMap_singleton, List.filter_append, List.map_append]
      cases hitems : items a with
      | nil => simpa [hitems] using ih
      | cons b rest =>
          have hkeep : [a].filter (fun a => !(items a).isEmpty) = [a] := by simp [hitems]
          -- Whether the value has occurred before is the same on both sides.
          have hold : (l.flatMap fun a => (items a).map fun _ => value a).contains (value a)
              = ((l.filter fun a => !(items a).isEmpty).map value).contains (value a) := by
            rw [Bool.eq_iff_iff, List.contains_iff_mem, List.contains_iff_mem, ← List.mem_eraseDups,
              ih, List.mem_eraseDups]
          rw [hkeep, List.map_singleton, List.map_const', List.length_cons,
            eraseDups_append_replicate, eraseDups_concat, eraseDups_concat, hold, ih]

/-- The keys in a list are distinct when none stands before its own place. -/
theorem nodup_filterMap_of_splits {α κ : Type} (key? : α → Option κ) (l done : List α)
    (hdone : (done.filterMap key?).Nodup)
    (h : ∀ s ∈ splits done l, ∀ k, key? s.2 = some k → k ∉ s.1.filterMap key?) :
    ((done ++ l).filterMap key?).Nodup := by
  induction l generalizing done with
  | nil => simpa using hdone
  | cons a rest ih =>
      rw [splits, List.forall_mem_cons] at h
      rw [List.append_cons]
      refine ih (done ++ [a]) ?_ h.2
      rw [List.filterMap_append]
      cases hkey : key? a with
      | none => simpa [hkey] using hdone
      | some k =>
          rw [List.filterMap_cons_some hkey, List.filterMap_nil, List.nodup_append]
          refine ⟨hdone, by simp, ?_⟩
          rintro x hx y hy rfl
          rw [List.mem_singleton.mp hy] at hx
          exact h.1 k hkey hx

/-! ### What the markers say -/

/-- The member as an owner of views. -/
def Member.owner : Member → ViewOwner
  | .field f => .field f.name
  | .method m => .method m.name

/-- Whether markers of the family need views. -/
def Family.needsViews : Family → Bool
  | .view | .listener => true
  | .resource => false

/-- Whether markers of the family listen to views. -/
def Family.listens : Family → Bool
  | .listener => true
  | .view | .resource => false

namespace Registry

/-- Whether the kind of a marker belongs to certain families. -/
def isOf (r : Registry) (families : Family → Bool) (q : Member × Marker) : Bool :=
  match r.family q.2.kind with
  | .ok family => families family
  | .error _ => false

/-- The assignment that a marker on a field stands for. -/
inductive Assigns (r : Registry) : Member × Marker → FieldAssignment → Prop
  /-- The view of the only id. -/
  | view {field : Field} {kind : Kind} {id : ResourceId} {isOptional : Bool}
      (registered : r.family kind = .ok .view) :
      Assigns r (.field field, ⟨kind, [id], isOptional⟩) (.view field id)
  /-- The resource of the only id, by the variant that fits the field. -/
  | resource {field : Field} {kind : Kind} {id : ResourceId} {isOptional : Bool}
      {spec : ResourceSpec} (fits : r.resolveVariant kind field.type = .ok (some spec)) :
      Assigns r (.field field, ⟨kind, [id], isOptional⟩) (.resource field id spec)

/-- The listener that a marker on a method stands for, apart from the name of its class. -/
structure Listens (r : Registry) (q : Member × Marker) (l : ListenerTarget) : Prop where
  placed : q = (.method l.method, ⟨l.kind, l.ids, l.isOptional⟩)
  field_eq : l.field = listenerField l.method.name l.kind
  resolved : r.validate q.1 q.2
    = .ok (.listener l.kind l.method l.ids l.isOptional l.listener l.arguments l.returns)

end Registry

/-- A plan that is what the markers of a class say.

- `ids_eq`, `owners_eq`, `required_iff`: the views are those that view
  and listener markers carry, each id once, in the order in which they
  first occur; a view has the members of the markers that carry it, each
  once, in the order in which they first occur; and it is required when
  one of these markers is not optional.
- `fields`: one assignment for each view or resource marker, in order.
- `listeners`, `classes`, `keys_nodup`: one listener for each listener
  marker, in order; their classes are numbered from zero, and no two of
  them have a method of one name and the same kind. -/
structure Plan.Transcribes (p : Plan) (r : Registry) (c : MarkedClass) : Prop where
  target_eq : p.target = c.name
  binding_eq : p.binding = bindingType c.name
  ids_eq : p.views.map ViewTarget.id
    = ((c.placements.filter (r.isOf Family.needsViews)).flatMap fun q => q.2.ids).eraseDups
  ids_nodup : (p.views.map ViewTarget.id).Nodup
  owners_eq : ∀ v ∈ p.views, v.owners
    = (((c.placements.filter (r.isOf Family.needsViews)).filter fun q => q.2.ids.contains v.id).map
        fun q => q.1.owner).eraseDups
  required_iff : ∀ v ∈ p.views, v.isRequired = true
    ↔ ∃ q ∈ c.placements, r.isOf Family.needsViews q = true ∧ v.id ∈ q.2.ids
      ∧ q.2.isOptional = false
  field_eq : ∀ v ∈ p.views, v.field = viewField v.id
  fields : List.Forall₂ r.Assigns (c.placements.filter (r.isOf Family.targetsFields)) p.fields
  listeners : List.Forall₂ r.Listens (c.placements.filter (r.isOf Family.listens)) p.listeners
  classes : ∀ (k : Nat) (l : ListenerTarget), p.listeners[k]? = some l →
    l.className = p.binding.nested (toString k)
  keys_nodup : (p.listeners.map fun l => (l.method.name, l.kind)).Nodup

/-! ### One marker -/

/-- The views that a marker asks for, for its member. -/
def demandsOf (q : Member × Marker) : List Demand :=
  q.2.ids.map fun id => ⟨id, q.1.owner, q.2.isOptional⟩

/-- A listener has the class that it is given. -/
theorem Binding.className_listener? {b : Binding} {listener : TypeName → ListenerTarget}
    (h : b.listener? = some listener) (name : TypeName) : (listener name).className = name := by
  cases b with
  | view => exact absurd h (by simp [Binding.listener?])
  | resource => exact absurd h (by simp [Binding.listener?])
  | listener =>
      rw [← Option.some.inj h]

namespace Registry

variable {r : Registry} {member : Member} {marker : Marker} {b : Binding}

/-- Whether a marker belongs to certain families is read off the descriptor of its kind. -/
theorem isOf_eq {d : Descriptor} {families : Family → Bool} {answer : Bool}
    (h : r.descriptor? marker.kind = some d) (hfamily : families d.family = answer) :
    r.isOf families (member, marker) = answer := by
  simp only [isOf, family_eq_ok_iff.mpr ⟨d, h, rfl⟩, hfamily]

/-- A valid marker adds its views, if it is of a family that needs views. -/
theorem Valid.demands_eq (h : r.Valid member marker b) :
    b.demands = if r.isOf Family.needsViews (member, marker) then demandsOf (member, marker)
      else [] := by
  cases h with
  | view registered => rw [isOf_eq (by exact registered) rfl]; rfl
  | resource registered => rw [isOf_eq (by exact registered) rfl]; rfl
  | listener registered => rw [isOf_eq (by exact registered) rfl]; rfl

/-- A valid marker of a family for fields adds one assignment, and any other adds none. -/
theorem Valid.assigns (h : r.Valid member marker b) :
    (r.isOf Family.targetsFields (member, marker) = true
        ∧ ∃ a, b.assignments = [a] ∧ r.Assigns (member, marker) a)
      ∨ r.isOf Family.targetsFields (member, marker) = false ∧ b.assignments = [] := by
  cases h with
  | view registered =>
      refine .inl ⟨isOf_eq (by exact registered) rfl, _, rfl, ?_⟩
      exact .view (family_eq_ok_iff.mpr ⟨_, registered, rfl⟩)
  | resource registered placed fits =>
      refine .inl ⟨isOf_eq (by exact registered) rfl, _, rfl, .resource ?_⟩
      rw [resolveVariant, variants_eq_ok_iff.mpr registered, ← fits]
      rfl
  | listener registered => exact .inr ⟨isOf_eq (by exact registered) rfl, rfl⟩

/-- A valid marker of the family of listeners adds one listener, and any other adds none. -/
theorem Valid.listens (h : r.Valid member marker b) :
    (r.isOf Family.listens (member, marker) = true
        ∧ ∃ listener, b.listener? = some listener
          ∧ ∀ name, r.Listens (member, marker) (listener name))
      ∨ r.isOf Family.listens (member, marker) = false ∧ b.listener? = none := by
  have hvalidate := h.validate
  cases h with
  | view registered => exact .inr ⟨isOf_eq (by exact registered) rfl, rfl⟩
  | resource registered => exact .inr ⟨isOf_eq (by exact registered) rfl, rfl⟩
  | listener registered =>
      exact .inl ⟨isOf_eq (by exact registered) rfl, _, rfl, fun _ => ⟨rfl, rfl, hvalidate⟩⟩

/-! ### All markers -/

variable {passed : List (Member × Marker)} {bindings : List Binding}

/-- The markers of the families that need views bring all the demands. -/
theorem Binds.demands_eq (h : r.Binds passed bindings) :
    bindings.flatMap Binding.demands = (passed.filter (r.isOf Family.needsViews)).flatMap demandsOf := by
  induction h with
  | nil => rfl
  | @cons q b _ _ hvalid _ ih =>
      rw [List.flatMap_cons, ih, hvalid.demands_eq, List.filter_cons]
      split <;> rfl

/-- The markers of the families for fields bring the assignments, one each. -/
theorem Binds.forall₂_assigns (h : r.Binds passed bindings) :
    List.Forall₂ r.Assigns (passed.filter (r.isOf Family.targetsFields))
      (bindings.flatMap Binding.assignments) := by
  induction h with
  | nil => exact .nil
  | @cons q b _ _ hvalid _ ih =>
      rw [List.flatMap_cons]
      obtain ⟨hfields, a, ha, hassigns⟩ | ⟨hother, hnone⟩ := hvalid.assigns
      · rw [List.filter_cons_of_pos hfields, ha]
        exact .cons hassigns ih
      · rw [List.filter_cons_of_neg (by simp [hother]), hnone]
        exact ih

/-- The markers of listeners bring the listeners, one each. -/
theorem Binds.forall₂_listens (h : r.Binds passed bindings) (name : Nat → TypeName) :
    List.Forall₂ r.Listens (passed.filter (r.isOf Family.listens)) (listenersOf name bindings) := by
  induction h generalizing name with
  | nil => exact .nil
  | @cons q b _ _ hvalid _ ih =>
      rw [listenersOf]
      obtain ⟨hlistener, listener, hb, hlistens⟩ | ⟨hother, hnone⟩ := hvalid.listens
      · rw [List.filter_cons_of_pos hlistener, List.filterMap_cons_some hb, List.mapIdx_cons]
        exact .cons (hlistens (name 0)) (ih fun i => name (i + 1))
      · rw [List.filter_cons_of_neg (by simp [hother]), List.filterMap_cons_none hnone]
        exact ih name

end Registry

/-- The listener of a number has the class of that number. -/
theorem className_of_getElem?_listenersOf {name : Nat → TypeName} {bindings : List Binding} {k : Nat}
    {l : ListenerTarget} (h : (listenersOf name bindings)[k]? = some l) : l.className = name k := by
  rw [listenersOf, List.getElem?_mapIdx, Option.map_eq_some_iff] at h
  obtain ⟨listener, hlistener, rfl⟩ := h
  obtain ⟨b, -, hb⟩ := List.mem_filterMap.mp (List.mem_of_getElem? hlistener)
  exact Binding.className_listener? hb (name k)

/-! ### The view of an id -/

namespace ViewTarget

variable {l : List (Member × Marker)} {id : ResourceId}

/-- The ids of the views are those that the markers carry. -/
theorem map_id_demandsOf : (l.flatMap demandsOf).map Demand.id = l.flatMap fun q => q.2.ids := by
  simp [List.map_flatMap, demandsOf, Function.comp_def]

/-- The owners of a view are the members of the markers that carry its id. -/
theorem owners_ofDemands : (ofDemands (l.flatMap demandsOf) id).owners
    = ((l.filter fun q => q.2.ids.contains id).map fun q => q.1.owner).eraseDups := by
  have hown : ((l.flatMap demandsOf).filter fun q => q.id == id).map Demand.owner
      = l.flatMap fun q => (q.2.ids.filter fun i => i == id).map fun _ => q.1.owner := by
    simp [List.filter_flatMap, List.map_flatMap, demandsOf, List.filter_map, Function.comp_def]
  have hcarry : (fun q : Member × Marker => !(q.2.ids.filter fun i => i == id).isEmpty)
      = fun q => q.2.ids.contains id := by
    funext q
    rw [Bool.eq_iff_iff]
    simp
  show (((l.flatMap demandsOf).filter fun q => q.id == id).map Demand.owner).eraseDups = _
  rw [hown, eraseDups_flatMap_const, hcarry]

/-- A view is required when a marker that carries its id is not optional. -/
theorem isRequired_ofDemands_demandsOf : (ofDemands (l.flatMap demandsOf) id).isRequired = true
    ↔ ∃ q ∈ l, id ∈ q.2.ids ∧ q.2.isOptional = false := by
  rw [isRequired_ofDemands]
  constructor
  · rintro ⟨d, hd, rfl, hoptional⟩
    obtain ⟨q, hq, hd⟩ := List.mem_flatMap.mp hd
    obtain ⟨id, hid, rfl⟩ := List.mem_map.mp hd
    exact ⟨q, hq, hid, hoptional⟩
  · rintro ⟨q, hq, hid, hoptional⟩
    exact ⟨_, List.mem_flatMap.mpr ⟨q, hq, List.mem_map_of_mem hid⟩, rfl, hoptional⟩

end ViewTarget

/-! ### The whole plan -/

namespace Plan

variable {r : Registry} {c : MarkedClass} {p : Plan}

/-- In a class that has a plan no two listener markers have the same key. -/
theorem nodup_listenerKeys_of_build (h : build r c = .ok p) :
    (r.listenerKeys c.placements).Nodup := by
  have hpass := exists_build_iff.mp ⟨p, h⟩
  rw [firstRefusal?, List.findSome?_eq_none_iff] at hpass
  refine nodup_filterMap_of_splits _ c.placements [] (by simp) fun s hs key hkey => ?_
  have hrefusal := hpass s hs
  rw [Registry.refusal?, Option.or_eq_none_iff] at hrefusal
  exact Registry.clash?_eq_none_iff.mp hrefusal.2 key hkey

/-- A plan that is built is what the markers of its class say, over any registry and for any class.

The views are the ids of the markers that need one, in the order in which they come up, without
repetitions. The owners of a view are the members with such a marker for its id, each once, and the
view is required exactly if one of these markers is not optional. The fields and the listeners
follow the markers of their families one to one. The classes of the listeners are numbered from
zero in that order, and no two listeners have a method and a kind in common.

Nothing is assumed of the markers but that the plan was built. The proof is an induction over them
with the draft as it grows (`exists_bindings_of_build`), and no part of the plan is looked at twice:
views that were recorded before are found again by their ids (`ViewTarget.recordAll_eq`). -/
theorem transcribes_of_build (h : build r c = .ok p) : p.Transcribes r c := by
  have hkeys := nodup_listenerKeys_of_build h
  obtain ⟨d, bindings, rfl, hbinds, hlays⟩ := exists_bindings_of_build h
  have hviews := hlays.views_eq
  rw [ViewTarget.recordAll_eq, hbinds.demands_eq] at hviews
  have hview : ∀ v ∈ d.plan.views, ∃ id, v = ViewTarget.ofDemands
      ((c.placements.filter (r.isOf Family.needsViews)).flatMap demandsOf) id := by
    intro v hv
    rw [hviews] at hv
    obtain ⟨id, -, rfl⟩ := List.mem_map.mp hv
    exact ⟨id, rfl⟩
  have hids : d.plan.views.map ViewTarget.id
      = ((c.placements.filter (r.isOf Family.needsViews)).flatMap fun q => q.2.ids).eraseDups := by
    rw [hviews, ViewTarget.map_id_allOfDemands, ViewTarget.map_id_demandsOf]
  refine ⟨hlays.target_eq, hlays.binding_eq, hids, ?_, ?_, ?_, ?_, ?_, ?_, ?_, ?_⟩
  · rw [hids]
    exact nodup_eraseDups _
  · intro v hv
    obtain ⟨id, rfl⟩ := hview v hv
    exact ViewTarget.owners_ofDemands
  · intro v hv
    obtain ⟨id, rfl⟩ := hview v hv
    rw [ViewTarget.isRequired_ofDemands_demandsOf]
    simp only [List.mem_filter, and_assoc]
    rfl
  · intro v hv
    obtain ⟨id, rfl⟩ := hview v hv
    rfl
  · rw [hlays.fields_eq]
    exact hbinds.forall₂_assigns
  · rw [hlays.listeners_eq]
    exact hbinds.forall₂_listens _
  · intro k l hl
    rw [hlays.listeners_eq] at hl
    rw [className_of_getElem?_listenersOf hl, hlays.binding_eq]
    rfl
  · rw [hlays.listeners_eq]
    show ((listenersOf _ bindings).map ListenerTarget.key).Nodup
    rw [map_key_listenersOf, ← hbinds.keys_eq]
    exact hkeys

end Plan

/-! ### A class whose members share views -/

namespace SharedPlayer

/-- The method of the listener. -/
def onClick : Method :=
  { name := "onClick", parameters := [.view], returns := .void, isAbstract := true }

/-- A listener that views take. -/
def resolved : ResolvedListener :=
  { spec := { owner := .view, listener := ⟨"com.example.OnClick"⟩, setter := "setOnClick" }
    setter := { name := "setOnClick", parameters := [⟨"com.example.OnClick"⟩], returns := .void }
    callback := onClick
    stubs := []
    isInterface := true }

/-- How texts are fetched. -/
def text : ResourceSpec := ⟨.string, "getString"⟩

/-- A registry with one kind of each family. -/
def registry : Registry :=
  (((Registry.ofClassPath .empty).enter ⟨"Bind"⟩ .view).enter ⟨"BindString"⟩
    (.resource [text])).enter ⟨"OnClick"⟩ (.listener resolved)

/-- A field that holds a view. -/
def cover : Field := { name := "cover", type := .view }

/-- A field that holds a text. -/
def title : Field := { name := "title", type := .string }

/-- A method that listens. -/
def play : Method := { name := "play", parameters := [], returns := .void }

/-- The marker of the field for a view, which can be missing. -/
def bindCover : Marker := ⟨⟨"Bind"⟩, [⟨1⟩], true⟩

/-- The marker of the field for a text. -/
def bindTitle : Marker := ⟨⟨"BindString"⟩, [⟨7⟩], false⟩

/-- The marker of the method, which names one view twice and shares another with the field. -/
def onPlay : Marker := ⟨⟨"OnClick"⟩, [⟨2⟩, ⟨1⟩, ⟨2⟩], false⟩

/-- A class with a field for a view, a field for a text and a method that listens. -/
def sample : MarkedClass :=
  { name := ⟨"com.example.Player"⟩
    members :=
      [⟨.field cover, [bindCover]⟩, ⟨.field title, [bindTitle]⟩, ⟨.method play, [onPlay]⟩] }

/-- The markers are valid. -/
theorem valid_sample :
    registry.Valid (.field cover) bindCover (.view ⟨"Bind"⟩ cover ⟨1⟩ true)
      ∧ registry.Valid (.field title) bindTitle (.resource ⟨"BindString"⟩ title ⟨7⟩ text)
      ∧ registry.Valid (.method play) onPlay
        (.listener ⟨"OnClick"⟩ play [⟨2⟩, ⟨1⟩, ⟨2⟩] false resolved [] .nothing) := by
  have htext : registry.descriptor? ⟨"BindString"⟩ = some (.resource [text]) := by decide
  refine ⟨Registry.valid_of_view (by decide) "cover" true (by decide),
    .resource htext (Registry.placementError?_eq_none_iff.mp (by decide)) ?_,
    .listener ?_ (Registry.placementError?_eq_none_iff.mp (by decide)) (by decide) rfl⟩
  · have hsame : (text.valueType == title.type) = true := by decide
    simp [Registry.fittingVariant?, hsame]
  · decide

/-- The class has a plan. -/
theorem exists_build_sample : ∃ p, Plan.build registry sample = .ok p := by
  obtain ⟨hcover, htitle, hplay⟩ := valid_sample
  have hplacements : sample.placements
      = [(.field cover, bindCover), (.field title, bindTitle), (.method play, onPlay)] := rfl
  rw [Plan.build, hplacements]
  simp only [List.foldlM_cons, List.foldlM_nil, Draft.place, hcover.validate, htitle.validate,
    hplay.validate]
  exact ⟨_, rfl⟩

/-- The plan of the class has two views, of which the field and the method share the first. -/
theorem transcribes_of_build_sample :
    ∃ p, Plan.build registry sample = .ok p ∧ p.Transcribes registry sample
      ∧ p.views.map ViewTarget.id = [⟨1⟩, ⟨2⟩]
      ∧ p.views.map ViewTarget.owners
        = [[.field "cover", .method "play"], [.method "play"]] := by
  obtain ⟨p, hbuild⟩ := exists_build_sample
  have h : p.Transcribes registry sample := Plan.transcribes_of_build hbuild
  have hids : p.views.map ViewTarget.id = [⟨1⟩, ⟨2⟩] := by
    rw [h.ids_eq]
    decide
  refine ⟨p, hbuild, h, hids, ?_⟩
  -- The owners of each view are a function of its id.
  rw [List.map_congr_left h.owners_eq]
  have howners := congrArg (List.map fun id =>
    (((sample.placements.filter (registry.isOf Family.needsViews)).filter fun q =>
      q.2.ids.contains id).map fun q => q.1.owner).eraseDups) hids
  rw [List.map_map] at howners
  refine howners.trans ?_
  decide

end SharedPlayer

end BindingCompiler
