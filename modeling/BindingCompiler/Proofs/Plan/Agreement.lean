import BindingCompiler.ClassPath.Android
import BindingCompiler.Proofs.Plan.Construction

/-!
# `BindingCompiler.Proofs.Plan.Agreement`: checking a class and planning it

`Registry.validateClass` and `Plan.build` walk over the same markers
with the checks in different orders. Position by position, a marker
about which nothing is reported is one that is not refused, and the
other way round, with one exception: a kind that is repeated on a field
is reported and not refused (`report?_eq_none_iff`). So a class is free
of failures when it has a plan and repeats no kind on a field
(`validateClass_eq_nil_iff_build`).
-/

set_option autoImplicit false

namespace BindingCompiler

/-! ### The two walks in step -/

/-- The elements of a list that is continued by another. -/
theorem splits_append {α : Type} (done l rest : List α) :
    splits done (l ++ rest) = splits done l ++ splits (done ++ l) rest := by
  induction l generalizing done with
  | nil => simp [splits]
  | cons a l ih => simp [splits, ih]

/-- The markers of a member, each after those that stand before it. -/
theorem splits_positionsOn (earlier : List MarkedMember) (member : Member)
    (before markers : List Marker) :
    splits (earlier.flatMap MarkedMember.placements ++ before.map fun marker => (member, marker))
        (markers.map fun marker => (member, marker))
      = (positionsOn earlier member before markers).map fun p =>
        (p.passed, (p.member, p.marker)) := by
  induction markers generalizing before with
  | nil => rfl
  | cons marker rest ih =>
      have hrest := ih (before ++ [marker])
      rw [List.map_append, ← List.append_assoc] at hrest
      rw [positionsOn, List.map_cons, List.map_cons, splits, ← hrest]
      rfl

/-- The markers of some members, each after those that stand before it. -/
theorem splits_positionsAfter (earlier members : List MarkedMember) :
    splits (earlier.flatMap MarkedMember.placements) (members.flatMap MarkedMember.placements)
      = (positionsAfter earlier members).map fun p => (p.passed, (p.member, p.marker)) := by
  induction members generalizing earlier with
  | nil => rfl
  | cons m rest ih =>
      have hrest := ih (earlier ++ [m])
      rw [List.flatMap_append, List.flatMap_singleton] at hrest
      have hfirst := splits_positionsOn earlier m.member [] m.markers
      rw [List.map_nil, List.append_nil] at hfirst
      rw [List.flatMap_cons, splits_append, positionsAfter, List.map_append, ← hrest, ← hfirst]
      rfl

/-- A class has a first refusal when one of its positions is refused. -/
theorem Plan.firstRefusal?_eq (r : Registry) (c : MarkedClass) :
    firstRefusal? r c = c.positions.findSome? fun p => r.refusal? p.passed (p.member, p.marker) := by
  have hsplits := splits_positionsAfter [] c.members
  rw [List.flatMap_nil] at hsplits
  rw [firstRefusal?, show c.placements = c.members.flatMap MarkedMember.placements from rfl,
    hsplits, List.findSome?_map]
  rfl

/-! ### One marker -/

namespace Registry

variable {r : Registry} {p : Position}

/-- The key of a marker is passed when its kind stands before it on its
member, or else an earlier member has the key. -/
theorem key_mem_passed_iff {key : ListenerKey}
    (hkey : r.listenerKey? p.member p.marker = some key) :
    key ∈ r.listenerKeys p.passed
      ↔ key ∈ r.listenerKeys (p.earlier.flatMap MarkedMember.placements)
        ∨ p.marker.kind ∈ p.before.map Marker.kind := by
  rw [Position.passed, mem_listenerKeys_append_iff, mem_listenerKeys_map_iff,
    exists_key_before_iff hkey]

/-- On a method only listeners are valid, and these have keys. -/
theorem Valid.exists_key {m : Method} {marker : Marker} {b : Binding}
    (h : r.Valid (.method m) marker b) : ∃ key, r.listenerKey? (.method m) marker = some key := by
  rw [h.key?_eq]
  cases h
  exact ⟨_, rfl⟩

/-- Nothing is reported about a marker when it is not refused and, on a
field, its kind does not stand before it. -/
theorem report?_eq_none_iff :
    r.report? p = none
      ↔ r.refusal? p.passed (p.member, p.marker) = none
        ∧ (p.member.isField = true → p.marker.kind ∉ p.before.map Marker.kind) := by
  rw [refusal?, Option.or_eq_none_iff, clash?_eq_none_iff]
  constructor
  · intro hreport
    unfold report? at hreport
    split at hreport
    · exact absurd hreport (by simp)
    · rename_i hkind
      replace hkind : p.marker.kind ∉ p.before.map Marker.kind := by simpa using hkind
      rw [Option.or_eq_none_iff, clash?_eq_none_iff] at hreport
      obtain ⟨hclash, hfailure⟩ := hreport
      refine ⟨⟨hfailure, fun key hkey hmem => ?_⟩, fun _ => hkind⟩
      exact hclash key hkey (((key_mem_passed_iff hkey).mp hmem).resolve_right hkind)
  · rintro ⟨⟨hfailure, hfree⟩, hfield⟩
    have hkind : p.marker.kind ∉ p.before.map Marker.kind := by
      obtain ⟨b, hvalid⟩ := failure?_eq_none_iff.mp hfailure
      cases hmember : p.member with
      | field field => exact hfield (by rw [hmember]; rfl)
      | method method =>
          rw [hmember] at hvalid
          obtain ⟨key, hkey⟩ := hvalid.exists_key
          rw [← hmember] at hkey
          -- A repeated kind would have brought the key before.
          exact fun hbefore => hfree key hkey ((key_mem_passed_iff hkey).mpr (.inr hbefore))
    rw [report?, if_neg (by simpa using hkind), Option.or_eq_none_iff, clash?_eq_none_iff]
    refine ⟨fun key hkey hmem => ?_, hfailure⟩
    exact hfree key hkey ((key_mem_passed_iff hkey).mpr (.inl hmem))

end Registry

/-! ### All markers -/

/-- The values of a list are distinct when none stands before its own place. -/
theorem nodup_map_iff_split {α β : Type} (f : α → β) (l : List α) :
    (l.map f).Nodup ↔ ∀ done a rest, l = done ++ a :: rest → f a ∉ done.map f := by
  constructor
  · rintro hnodup done a rest rfl hmem
    rw [List.map_append, List.nodup_append] at hnodup
    exact hnodup.2.2 (f a) hmem (f a) (by simp) rfl
  · intro hsplit
    induction l with
    | nil => simp
    | cons a l ih =>
        rw [List.map_cons, List.nodup_cons]
        constructor
        · intro hmem
          obtain ⟨b, hb, hsame⟩ := List.mem_map.mp hmem
          obtain ⟨done, rest, rfl⟩ := List.append_of_mem hb
          exact hsplit (a :: done) b rest rfl (by simp [hsame])
        · refine ih fun done b rest hl hmem => ?_
          refine hsplit (a :: done) b rest (by rw [hl]; rfl) ?_
          rw [List.map_cons]
          exact List.mem_cons_of_mem _ hmem

/-- No field repeats a kind when at no position on a field its kind stands before it. -/
theorem MarkedClass.nodup_kinds_iff {c : MarkedClass} :
    (∀ p ∈ c.positions, p.member.isField = true → p.marker.kind ∉ p.before.map Marker.kind)
      ↔ ∀ m ∈ c.members, m.member.isField = true → (m.markers.map Marker.kind).Nodup := by
  constructor
  · intro hpositions m hm hfield
    rw [nodup_map_iff_split]
    intro done marker rest hmarkers
    obtain ⟨earlier, later, hmembers⟩ := List.append_of_mem hm
    refine hpositions ⟨earlier, m.member, done, marker⟩ ?_ hfield
    refine mem_positions_iff.mpr ⟨later, rest, ?_⟩
    rw [hmembers, ← hmarkers]
  · intro hmembers p hp hfield
    obtain ⟨rest, markers, hsplit⟩ := mem_positions_iff.mp hp
    have hnodup := hmembers ⟨p.member, p.before ++ p.marker :: markers⟩ (by simp [hsplit]) hfield
    exact (nodup_map_iff_split _ _).mp hnodup _ _ _ rfl

/-- A class is free of failures when it has a plan and none of its
fields repeats a kind. -/
theorem validateClass_eq_nil_iff_build (r : Registry) (c : MarkedClass) :
    r.validateClass c = []
      ↔ (∃ p, Plan.build r c = .ok p)
        ∧ ∀ m ∈ c.members, m.member.isField = true → (m.markers.map Marker.kind).Nodup := by
  rw [Registry.validateClass_eq_nil_iff, Plan.exists_build_iff, Plan.firstRefusal?_eq,
    List.findSome?_eq_none_iff, ← MarkedClass.nodup_kinds_iff]
  constructor
  · intro h
    exact ⟨fun p hp => (Registry.report?_eq_none_iff.mp (h p hp)).1,
      fun p hp => (Registry.report?_eq_none_iff.mp (h p hp)).2⟩
  · rintro ⟨hpass, hkinds⟩ p hp
    exact Registry.report?_eq_none_iff.mpr ⟨hpass p hp, hkinds p hp⟩

/-! ### A field with one kind twice -/

namespace RepeatedKind

/-- The framework with the kind that binds a field to a view. -/
def registry : Registry := (Registry.ofClassPath .android).registerView ⟨"Bind"⟩

/-- The field of a view. -/
def title : Field := { name := "title", type := .view }

/-- A class that binds the field to two views. -/
def sample : MarkedClass :=
  { name := ⟨"com.example.Sample"⟩
    members := [⟨.field title, [⟨⟨"Bind"⟩, [⟨1⟩], false⟩, ⟨⟨"Bind"⟩, [⟨2⟩], false⟩]⟩] }

/-- Both markers are valid by themselves. -/
theorem valid_title (id : ResourceId) (hid : id.isWellFormed = true) :
    registry.Valid (.field title) ⟨⟨"Bind"⟩, [id], false⟩ (.view ⟨"Bind"⟩ title id false) := by
  have hregistered : registry.descriptor? ⟨"Bind"⟩ = some .view := by
    rw [registry, Registry.registerView, Registry.descriptor?_enter, if_pos rfl]
  exact Registry.valid_of_view hregistered "title" false hid

/-- The class has a plan, in which the second view replaces the first,
though its check fails. -/
theorem build_and_validateClass_sample :
    ¬ ((∃ p, Plan.build registry sample = .ok p) ↔ registry.validateClass sample = []) := by
  have hbuild : ∃ p, Plan.build registry sample = .ok p := by
    rw [Plan.exists_build_iff, Plan.firstRefusal?, List.findSome?_eq_none_iff]
    intro s hs
    obtain ⟨id, hid, hq⟩ : ∃ id : ResourceId, id.isWellFormed = true
        ∧ s.2 = (.field title, ⟨⟨"Bind"⟩, [id], false⟩) := by
      rcases List.mem_cons.mp hs with rfl | hs
      · exact ⟨⟨1⟩, by decide, rfl⟩
      · rw [List.mem_singleton.mp hs]
        exact ⟨⟨2⟩, by decide, rfl⟩
    rw [Registry.refusal?, hq, Registry.failure?_eq_none_iff.mpr ⟨_, valid_title id hid⟩]
    rfl
  intro hiff
  have hnil := hiff.mp hbuild
  rw [Registry.validateClass_eq] at hnil
  exact absurd hnil (by simp [sample, MarkedClass.positions, positionsAfter, positionsOn, Registry.report?])

end RepeatedKind

end BindingCompiler
