import BindingCompiler.Proofs.Plan.Contents
import BindingCompiler.Proofs.Registry.Builtin
import BindingCompiler.Source.BindingClass

/-!
# `BindingCompiler.Proofs.Source.AddedFields`: names of added fields

A binding class adds a field for each view that is listened to and one for each listener. A plan
has no two listeners of one key, that is, of one kind for methods of one name, since their fields
would clash. This is not enough. A field is named after the method and the kind with a dollar
between them, and both may have dollars of their own. So the name of a method can go on with a
part that another kind begins with: `save` and `Twice$OnClick` make the same name as
`save$Twice` and `OnClick`.

`nodup_map_name_addedFields_iff` says that nothing else makes two fields clash. The fields of
views are apart by their numbers (`viewField_injective`), and from those of listeners by how they
begin (`viewField_ne_listenerField`). For listeners, two texts that are joined at a separator can
be cut at another one only in what they have in common (`append_cons_eq_append_cons_iff`).
-/

set_option autoImplicit false

namespace BindingCompiler

/-! ### Texts joined at a separator -/

/-- Texts are joined to one at a separator when they are the same, or when one of the first ones
goes on with what one of the second ones begins with. -/
theorem append_cons_eq_append_cons_iff {α : Type} {a b a' b' : List α} {separator : α} :
    a ++ separator :: b = a' ++ separator :: b'
      ↔ (a = a' ∧ b = b')
        ∨ (∃ between, a' = a ++ separator :: between ∧ b = between ++ separator :: b')
        ∨ ∃ between, a = a' ++ separator :: between ∧ b' = between ++ separator :: b := by
  constructor
  · intro h
    rcases List.append_eq_append_iff.mp h with ⟨more, rfl, hrest⟩ | ⟨more, rfl, hrest⟩
    · cases more with
      | nil => exact .inl ⟨(List.append_nil a).symm, (List.cons.inj hrest).2⟩
      | cons x between =>
          obtain ⟨rfl, hb⟩ := List.cons.inj hrest
          exact .inr (.inl ⟨between, rfl, hb⟩)
    · cases more with
      | nil => exact .inl ⟨List.append_nil a', (List.cons.inj hrest).2.symm⟩
      | cons x between =>
          obtain ⟨rfl, hb⟩ := List.cons.inj hrest
          exact .inr (.inr ⟨between, rfl, hb⟩)
  · rintro (⟨rfl, rfl⟩ | ⟨between, rfl, rfl⟩ | ⟨between, rfl, rfl⟩)
    · rfl
    · rw [List.append_assoc, List.cons_append]
    · rw [List.append_assoc, List.cons_append]

/-! ### Names of fields -/

/-- The name of the other method goes on, after a dollar, with a part that stands before the
other kind in this one. -/
def Registry.ListenerKey.Overlaps (key other : Registry.ListenerKey) : Prop :=
  ∃ between : String, other.1 = key.1 ++ "$" ++ between
    ∧ key.2.name = between ++ "$" ++ other.2.name

/-- The field of a listener has the method and the kind behind one prefix, with a dollar between
the two. -/
theorem listenerField_eq (method : String) (kind : Kind) :
    listenerField method kind = "sento$listener$" ++ (method ++ "$" ++ kind.name) := by
  -- For any prefix, since rewriting would take the text of this one apart.
  have hassoc : ∀ front : String,
      front ++ method ++ "$" ++ kind.name = front ++ (method ++ "$" ++ kind.name) := by
    intro front
    simp only [String.append_assoc]
  exact hassoc "sento$listener$"

namespace Registry.ListenerKey

variable {key other : Registry.ListenerKey}

/-- Two texts with a dollar between them, as characters. -/
theorem toList_join (front back : String) :
    (front ++ "$" ++ back).toList = front.toList ++ '$' :: back.toList := by
  rw [String.append_assoc, String.toList_append, String.toList_append]
  rfl

/-- Overlapping is a matter of characters. -/
theorem overlaps_iff : key.Overlaps other ↔ ∃ between : List Char,
    other.1.toList = key.1.toList ++ '$' :: between
      ∧ key.2.name.toList = between ++ '$' :: other.2.name.toList := by
  constructor
  · rintro ⟨between, hmethod, hkind⟩
    exact ⟨between.toList, by rw [hmethod, toList_join], by rw [hkind, toList_join]⟩
  · rintro ⟨between, hmethod, hkind⟩
    refine ⟨String.ofList between, ?_, ?_⟩
    · rw [← String.toList_inj, hmethod, toList_join, String.toList_ofList]
    · rw [← String.toList_inj, hkind, toList_join, String.toList_ofList]

/-- No listener overlaps with itself. -/
theorem not_overlaps_self (key : Registry.ListenerKey) : ¬ key.Overlaps key := by
  rintro ⟨between, hmethod, -⟩
  have hlength := congrArg String.length hmethod
  have hdollar : ("$" : String).length = 1 := rfl
  rw [String.length_append, String.length_append, hdollar] at hlength
  omega

/-- Only a kind with a dollar overlaps. -/
theorem not_overlaps_of_dollar_not_mem (h : '$' ∉ key.2.name.toList) : ¬ key.Overlaps other := by
  intro hoverlaps
  obtain ⟨between, -, hkind⟩ := overlaps_iff.mp hoverlaps
  exact h (hkind ▸ List.mem_append_right _ List.mem_cons_self)

/-- Listeners have fields of one name when they have the same key, or when one of them overlaps
with the other. -/
theorem listenerField_eq_iff : listenerField key.1 key.2 = listenerField other.1 other.2
    ↔ key = other ∨ key.Overlaps other ∨ other.Overlaps key := by
  have hsame : key = other
      ↔ key.1.toList = other.1.toList ∧ key.2.name.toList = other.2.name.toList := by
    obtain ⟨method, ⟨kind⟩⟩ := key
    obtain ⟨method', ⟨kind'⟩⟩ := other
    simp [String.toList_inj]
  have hjoin : listenerField key.1 key.2 = listenerField other.1 other.2
      ↔ key.1 ++ "$" ++ key.2.name = other.1 ++ "$" ++ other.2.name := by
    rw [listenerField_eq key.1, listenerField_eq other.1]
    exact String.append_right_inj _
  rw [hjoin, ← String.toList_inj, toList_join, toList_join, append_cons_eq_append_cons_iff, hsame,
    overlaps_iff, overlaps_iff]

end Registry.ListenerKey

/-- A view is known by its field. -/
theorem viewField_injective {id other : ResourceId} (h : viewField id = viewField other) :
    id = other :=
  ResourceId.suffix_injective ((String.append_right_inj _).mp h)

/-- No field keeps a view and a listener. -/
theorem viewField_ne_listenerField (id : ResourceId) (method : String) (kind : Kind) :
    viewField id ≠ listenerField method kind := by
  have hchar : ∀ front rest : String, 6 < front.toList.length →
      (front ++ rest).toList[6]? = front.toList[6]? := by
    intro front rest hlong
    rw [String.toList_append, List.getElem?_append_left hlong]
  have hview := hchar "sento$view$id_" id.suffix (by decide)
  have hlistener := hchar "sento$listener$" (method ++ "$" ++ kind.name) (by decide)
  intro h
  -- After `sento$` one goes on with `view`, and the other one with `listener`.
  have hsame := congrArg (fun name : String => name.toList[6]?) (h.trans (listenerField_eq _ _))
  exact absurd (hview.symm.trans (hsame.trans hlistener)) (by decide)

/-! ### The fields of a plan -/

namespace Plan

variable {r : Registry} {c : MarkedClass} {p : Plan}

/-- The views of a plan have different ids. -/
theorem nodup_map_id_views_of_build (h : build r c = .ok p) :
    (p.views.map ViewTarget.id).Nodup := by
  obtain ⟨d, bindings, rfl, -, hlays⟩ := exists_bindings_of_build h
  rw [hlays.views_eq, ViewTarget.recordAll_eq, ViewTarget.map_id_allOfDemands]
  exact nodup_eraseDups _

/-- The listeners of a plan have different keys. -/
theorem nodup_map_key_of_build (h : build r c = .ok p) :
    (p.listeners.map ListenerTarget.key).Nodup := by
  have hkeys := nodup_listenerKeys_of_build h
  obtain ⟨d, bindings, rfl, hbinds, hlays⟩ := exists_bindings_of_build h
  rw [hlays.listeners_eq, map_key_listenersOf, ← hbinds.keys_eq]
  exact hkeys

/-- A listener is kept in the field of its key. -/
theorem field_of_mem_listeners (h : build r c = .ok p) {l : ListenerTarget}
    (hl : l ∈ p.listeners) : l.field = listenerField l.key.1 l.key.2 := by
  obtain ⟨d, bindings, rfl, -, hlays⟩ := exists_bindings_of_build h
  rw [hlays.listeners_eq] at hl
  exact (exists_of_mem_listenersOf hl).2.1

/-- The fields that are added, views first. -/
theorem map_name_addedFields_of_build (h : build r c = .ok p) :
    (Source.addedFields p).map Source.FieldDecl.name
      = (p.keptViews.map ViewTarget.id).map viewField
        ++ (p.listeners.map ListenerTarget.key).map fun key => listenerField key.1 key.2 := by
  rw [Source.addedFields, List.map_append, List.map_map, List.map_map, List.map_map, List.map_map]
  refine congrArg₂ (· ++ ·) (List.map_congr_left fun v hv => ?_)
    (List.map_congr_left fun l hl => ?_)
  · exact (coherent_of_build h).kept v (List.mem_of_mem_filter hv)
  · exact field_of_mem_listeners h hl

/-- The fields that a plan adds have different names unless one of its listeners overlaps with
another one. -/
theorem nodup_map_name_addedFields_iff (h : build r c = .ok p) :
    ((Source.addedFields p).map Source.FieldDecl.name).Nodup
      ↔ ∀ l ∈ p.listeners, ∀ l' ∈ p.listeners, ¬ l.key.Overlaps l'.key := by
  have hkeys := nodup_map_key_of_build h
  rw [map_name_addedFields_of_build h, List.nodup_append]
  constructor
  · rintro ⟨-, hfields, -⟩ l hl l' hl' hoverlaps
    have hsame : l.key = l'.key :=
      List.inj_on_of_nodup_map hfields (List.mem_map_of_mem hl) (List.mem_map_of_mem hl')
        (Registry.ListenerKey.listenerField_eq_iff.mpr (.inr (.inl hoverlaps)))
    rw [hsame] at hoverlaps
    exact Registry.ListenerKey.not_overlaps_self _ hoverlaps
  · intro hapart
    have hids : (p.keptViews.map ViewTarget.id).Nodup :=
      (nodup_map_id_views_of_build h).sublist (List.filter_sublist.map _)
    refine ⟨hids.map fun id other => viewField_injective, hkeys.map_on ?_, ?_⟩
    · rintro _ hkey _ hkey' hfield
      obtain ⟨l, hl, rfl⟩ := List.mem_map.mp hkey
      obtain ⟨l', hl', rfl⟩ := List.mem_map.mp hkey'
      rcases Registry.ListenerKey.listenerField_eq_iff.mp hfield with hsame | hover | hover
      · exact hsame
      · exact absurd hover (hapart l hl l' hl')
      · exact absurd hover (hapart l' hl' l hl)
    · rintro _ hview _ hlistener hsame
      obtain ⟨id, -, rfl⟩ := List.mem_map.mp hview
      obtain ⟨key, -, rfl⟩ := List.mem_map.mp hlistener
      exact viewField_ne_listenerField id key.1 key.2 hsame

end Plan

/-! ### A kind that begins with the end of another method -/

namespace SplitName

open Registry

/-- The kind of clicks. -/
def click : Kind := ⟨"OnClick"⟩

/-- A second kind for the same listener. -/
def twice : Kind := ⟨"Twice$OnClick"⟩

/-- What both kinds attach. -/
def spec : ListenerSpec :=
  viewListener ClassPath.Android.onClickListener "setOnClickListener" "onClick"

/-- A method without arguments. -/
def method (name : String) : Method := { name, parameters := [], returns := .void }

/-- A class with two methods that listen to one view, the first one by the given kind. -/
def sample (kind : Kind) : MarkedClass :=
  { name := ⟨"com.example.Sample"⟩
    members :=
      [⟨.method (method "save"), [⟨kind, [⟨1⟩], false⟩]⟩,
        ⟨.method (method "save$Twice"), [⟨click, [⟨1⟩], false⟩]⟩] }

/-- Both kinds are registered over the framework. -/
def Registered (r : Registry) : Prop :=
  ∃ first, (Registry.ofClassPath .android).registerListener click spec = .ok first
    ∧ first.registerListener twice spec = .ok r

/-- Both kinds can be registered, with one listener. -/
theorem exists_registered : ∃ r l, Registered r ∧ r.descriptor? click = some (.listener l)
    ∧ r.descriptor? twice = some (.listener l) := by
  obtain ⟨l, hl⟩ := exists_resolveListener_builtin (click, spec) (by decide)
  -- The spec is accepted alike both times, since no registration changes the class path.
  have hregister : ∀ (r : Registry) (kind : Kind), r.classPath = .android →
      r.registerListener kind spec = .ok (r.enter kind (.listener l)) := by
    intro r kind hpath
    exact registerListener_eq_ok_iff.mpr ⟨l, hpath ▸ hl, rfl⟩
  refine ⟨_, l, ⟨_, hregister _ click rfl, hregister _ twice rfl⟩, ?_, ?_⟩
  · rw [descriptor?_enter, if_neg (by decide), descriptor?_enter, if_pos rfl]
  · rw [descriptor?_enter, if_pos rfl]

/-- The class has a plan whichever of the kinds is on the first method. -/
theorem exists_build_sample {r : Registry} {l : ResolvedListener} {kind : Kind}
    (hclick : r.descriptor? click = some (.listener l))
    (hkind : r.descriptor? kind = some (.listener l)) :
    ∃ p, Plan.build r (sample kind) = .ok p ∧ p.keptViews.map ViewTarget.id = [⟨1⟩]
      ∧ p.listeners.map ListenerTarget.key = [("save", kind), ("save$Twice", click)] := by
  have hids : ∀ id ∈ [(⟨1⟩ : ResourceId)], id.isWellFormed = true :=
    List.forall_mem_singleton.mpr (by decide)
  have hfirst := (valid_of_no_parameters hkind "save" false (by simp) hids).validate
  have hsecond := (valid_of_no_parameters hclick "save$Twice" false (by simp) hids).validate
  rw [Plan.build, show (sample kind).placements
    = [(.method (method "save"), ⟨kind, [⟨1⟩], false⟩),
      (.method (method "save$Twice"), ⟨click, [⟨1⟩], false⟩)] from rfl]
  simp only [List.foldlM_cons, List.foldlM_nil, Draft.place, method, hfirst, hsecond]
  exact ⟨_, rfl, rfl, rfl⟩

/-- With the kind of clicks on both methods all fields are different, though one method is named
as the other one with a part of the second kind. -/
theorem nodup_map_name_addedFields_click : ∃ r p, Registered r
    ∧ Plan.build r (sample click) = .ok p
    ∧ ((Source.addedFields p).map Source.FieldDecl.name).Nodup := by
  obtain ⟨r, l, hr, hclick, -⟩ := exists_registered
  obtain ⟨p, hbuild, -, hkeys⟩ := exists_build_sample hclick hclick
  refine ⟨r, p, hr, hbuild, (Plan.nodup_map_name_addedFields_iff hbuild).mpr ?_⟩
  intro l hl l' _
  have hkind : l.key.2 = click := by
    have hkey : l.key ∈ p.listeners.map ListenerTarget.key := List.mem_map_of_mem hl
    rw [hkeys] at hkey
    rcases List.mem_pair.mp hkey with heq | heq <;> rw [heq]
  exact ListenerKey.not_overlaps_of_dollar_not_mem (by rw [hkind]; decide)

/-- With the second kind on the first method two of the fields have one name. -/
theorem not_nodup_map_name_addedFields_twice : ∃ r p, Registered r
    ∧ Plan.build r (sample twice) = .ok p
    ∧ (Source.addedFields p).map Source.FieldDecl.name
      = ["sento$view$id_1", "sento$listener$save$Twice$OnClick",
        "sento$listener$save$Twice$OnClick"]
    ∧ ¬ ((Source.addedFields p).map Source.FieldDecl.name).Nodup := by
  obtain ⟨r, l, hr, hclick, htwice⟩ := exists_registered
  obtain ⟨p, hbuild, hids, hkeys⟩ := exists_build_sample hclick htwice
  have hnames := Plan.map_name_addedFields_of_build hbuild
  rw [hids, hkeys] at hnames
  refine ⟨r, p, hr, hbuild, ?_, ?_⟩
  · rw [hnames]
    decide
  · rw [hnames]
    decide

end SplitName

end BindingCompiler
