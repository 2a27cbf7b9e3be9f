import BindingCompiler.Proofs.Plan.Agreement

/-!
# `BindingCompiler.Proofs.Plan.FirstFailure`: the marker that is blamed first

A class with failures has no plan, and the construction of the plan ends
at the marker that the first failure is about. Up to that marker both
walks have passed the same markers, so they hold the same listeners. At
the marker itself they may name different causes: the check of the class
looks for a clash of listeners first, the construction validates first.

* `MarkedClass.positions_eq_append_cons`: what stands before a position
  in the list of positions is what stands before it in the class.
* `Registry.exists_refusal_of_report?`: the two causes at one marker.
* `exists_blamed`: the marker of the first failure ends the construction,
  with the same error unless that failure is a clash (`Blamed`).
* `build_eq_error_iff_and_blamed`: the two walks fail for the same
  classes, and at the same marker.
-/

set_option autoImplicit false

namespace BindingCompiler

/-! ### The class up to a marker -/

namespace MarkedClass

/-- The part of a class that stands before a position. -/
def before (c : MarkedClass) (p : Position) : MarkedClass :=
  { c with members := p.earlier ++ [⟨p.member, p.before⟩] }

/-- The part of a class that ends with the marker of a position. -/
def through (c : MarkedClass) (p : Position) : MarkedClass :=
  { c with members := p.earlier ++ [⟨p.member, p.before ++ [p.marker]⟩] }

end MarkedClass

/-- The positions of a member's markers, some of them after the others. -/
theorem positionsOn_append (earlier : List MarkedMember) (member : Member)
    (before markers more : List Marker) :
    positionsOn earlier member before (markers ++ more)
      = positionsOn earlier member before markers
        ++ positionsOn earlier member (before ++ markers) more := by
  induction markers generalizing before with
  | nil => simp [positionsOn]
  | cons marker rest ih => simp [positionsOn, ih]

/-- The positions on some members and on members that follow. -/
theorem positionsAfter_append (earlier members more : List MarkedMember) :
    positionsAfter earlier (members ++ more)
      = positionsAfter earlier members ++ positionsAfter (earlier ++ members) more := by
  induction members generalizing earlier with
  | nil => simp [positionsAfter]
  | cons m rest ih => simp [positionsAfter, ih]

/-- What stands before a position among those of a member. -/
theorem positionsOn_eq_append_cons {earlier : List MarkedMember} {member : Member}
    {before markers : List Marker} {done after : List Position} {p : Position}
    (h : positionsOn earlier member before markers = done ++ p :: after) :
    ∃ first, p.earlier = earlier ∧ p.member = member ∧ p.before = before ++ first
      ∧ done = positionsOn earlier member before first := by
  induction markers generalizing before done with
  | nil => exact absurd h (by simp [positionsOn])
  | cons marker rest ih =>
      rw [positionsOn] at h
      cases done with
      | nil =>
          obtain ⟨rfl, -⟩ := List.cons.inj h
          exact ⟨[], rfl, rfl, by simp, rfl⟩
      | cons q done =>
          obtain ⟨rfl, hrest⟩ := List.cons.inj h
          obtain ⟨first, hearlier, hmember, hbefore, hdone⟩ := ih hrest
          refine ⟨marker :: first, hearlier, hmember, by simp [hbefore], ?_⟩
          rw [hdone, positionsOn]

/-- What stands before a position among those of some members. -/
theorem positionsAfter_eq_append_cons {earlier members : List MarkedMember}
    {done after : List Position} {p : Position}
    (h : positionsAfter earlier members = done ++ p :: after) :
    ∃ first, p.earlier = earlier ++ first
      ∧ done = positionsAfter earlier first ++ positionsOn p.earlier p.member [] p.before := by
  induction members generalizing earlier done with
  | nil => exact absurd h (by simp [positionsAfter])
  | cons m rest ih =>
      rw [positionsAfter, List.append_eq_append_iff] at h
      rcases h with ⟨more, hdone, hrest⟩ | ⟨more, hon, hmore⟩
      · -- The position is on a later member.
        obtain ⟨first, hearlier, hmore⟩ := ih hrest
        refine ⟨m :: first, by simp [hearlier], ?_⟩
        rw [hdone, hmore, positionsAfter, List.append_assoc]
      · cases more with
        | nil =>
            -- The position is the first one after the member.
            have hnext : positionsAfter (earlier ++ [m]) rest = [] ++ p :: after := hmore.symm
            obtain ⟨first, hearlier, hempty⟩ := ih hnext
            refine ⟨m :: first, by simp [hearlier], ?_⟩
            rw [List.append_nil] at hon
            rw [positionsAfter, List.append_assoc, ← hempty, List.append_nil, hon]
        | cons q more =>
            obtain ⟨rfl, -⟩ := List.cons.inj hmore
            obtain ⟨first, hearlier, hmember, hbefore, hdone⟩ := positionsOn_eq_append_cons hon
            rw [List.nil_append] at hbefore
            refine ⟨[], by simp [hearlier], ?_⟩
            rw [hdone, hearlier, hmember, hbefore]
            rfl

/-- What stands before a position in the list of positions is what
stands before it in the class. -/
theorem MarkedClass.positions_eq_append_cons {c : MarkedClass} {done after : List Position}
    {p : Position} (h : c.positions = done ++ p :: after) :
    (c.before p).positions = done ∧ (c.through p).positions = done ++ [p] := by
  obtain ⟨first, hearlier, hdone⟩ := positionsAfter_eq_append_cons h
  rw [List.nil_append] at hearlier
  have hmember : ∀ markers, positionsAfter [] (p.earlier ++ [⟨p.member, markers⟩])
      = positionsAfter [] p.earlier ++ positionsOn p.earlier p.member [] markers := by
    intro markers
    rw [positionsAfter_append, List.nil_append, positionsAfter, positionsAfter, List.append_nil]
  rw [← hearlier] at hdone
  refine ⟨(hmember p.before).trans hdone.symm, (hmember (p.before ++ [p.marker])).trans ?_⟩
  rw [positionsOn_append, ← List.append_assoc, ← hdone]
  rfl

namespace Registry

variable {r : Registry} {p : Position}

/-! ### One marker -/

/-- If the kind of a marker does not stand before it on its member, what
is reported is a clash with any marker before it, or else what is wrong
with the marker by itself. -/
theorem report?_eq_of_kind_not_mem (hkind : p.marker.kind ∉ p.before.map Marker.kind) :
    r.report? p = (r.clash? (r.listenerKeys p.passed) p.member p.marker).or
      (r.failure? p.member p.marker) := by
  rw [report?, if_neg (by simpa using hkind)]
  congr 1
  refine clash?_congr fun key hkey => ?_
  rw [key_mem_passed_iff hkey]
  exact (or_iff_left hkind).symm

/-- A clash is the failure of a listener on a method. -/
theorem exists_overloaded_of_clash? {taken : List ListenerKey} {member : Member} {marker : Marker}
    {e : BindingError} (h : r.clash? taken member marker = some e) :
    ∃ m, member = .method m ∧ e = .marker (.overloaded marker.kind m) := by
  unfold clash? at h
  split at h
  · rename_i m key hkey
    split at h
    · cases h
      exact ⟨m, rfl, rfl⟩
    · exact absurd h (by simp)
  · exact absurd h (by simp)

/-- A marker about which something is reported is refused, for the same
cause; only in place of a clash, what is wrong with the marker by itself
may be the cause. -/
theorem exists_refusal_of_report? (hkind : p.marker.kind ∉ p.before.map Marker.kind)
    {first : BindingError} (h : r.report? p = some first) :
    ∃ e, r.refusal? p.passed (p.member, p.marker) = some e
      ∧ (e = first
        ∨ (∃ m, p.member = .method m ∧ first = .marker (.overloaded p.marker.kind m))
          ∧ r.validate p.member p.marker = .error e) := by
  rw [report?_eq_of_kind_not_mem hkind] at h
  rw [refusal?]
  -- The two causes come in either order, so they differ only if there are both.
  cases hclash : r.clash? (r.listenerKeys p.passed) p.member p.marker with
  | none =>
      rw [hclash, Option.none_or] at h
      exact ⟨first, by rw [h]; rfl, .inl rfl⟩
  | some o =>
      rw [hclash, Option.some_or, Option.some.injEq] at h
      subst h
      cases hfailure : r.failure? p.member p.marker with
      | none => exact ⟨o, rfl, .inl rfl⟩
      | some e =>
          exact ⟨e, rfl, .inr ⟨exists_overloaded_of_clash? hclash, failure?_eq_some_iff.mp hfailure⟩⟩

end Registry

/-! ### All markers -/

section
variable {r : Registry} {c : MarkedClass}

/-- No marker follows one of its kind on a member without repeated kinds. -/
theorem MarkedClass.kind_not_mem_before
    (hkinds : ∀ m ∈ c.members, (m.markers.map Marker.kind).Nodup) {p : Position}
    (hp : p ∈ c.positions) : p.marker.kind ∉ p.before.map Marker.kind := by
  obtain ⟨rest, markers, hsplit⟩ := mem_positions_iff.mp hp
  have hnodup := hkinds ⟨p.member, p.before ++ p.marker :: markers⟩ (by simp [hsplit])
  exact (nodup_map_iff_split _ _).mp hnodup _ _ _ rfl

/-- The construction of a plan fails with the first refusal. -/
theorem Plan.build_eq_error_iff {e : BindingError} :
    build r c = .error e
      ↔ (c.positions.findSome? fun p => r.refusal? p.passed (p.member, p.marker)) = some e := by
  rw [← firstRefusal?_eq]
  obtain ⟨herror, hok⟩ := build_run r c
  constructor
  · intro h
    cases hrefused : firstRefusal? r c with
    | none =>
        obtain ⟨d, hd, -⟩ := hok hrefused
        rw [hd] at h
        exact absurd h (by simp)
    | some e' =>
        rw [herror e' hrefused] at h
        cases h
        rfl
  · exact herror e

/-- Both walks over a class end at one marker, the check with the failure
`first` and the construction with the error `e`: before the marker the
class has no failures and has a plan, and with it there is one failure
and the plan ends. The two errors are the same, unless the failure is a
clash of listeners; then the error may be what the marker is not valid for. -/
structure Blamed (r : Registry) (c : MarkedClass) (first e : BindingError) (p : Position) :
    Prop where
  mem : p ∈ c.positions
  clean_before : r.validateClass (c.before p) = []
  planned_before : ∃ plan, Plan.build r (c.before p) = .ok plan
  failure_through : r.validateClass (c.through p) = [first]
  error_through : Plan.build r (c.through p) = .error e
  cause : e = first
    ∨ (∃ m, p.member = .method m ∧ first = .marker (.overloaded p.marker.kind m))
      ∧ r.validate p.member p.marker = .error e

/-- The marker of the first failure ends the construction of the plan. -/
theorem exists_blamed (hkinds : ∀ m ∈ c.members, (m.markers.map Marker.kind).Nodup)
    {first : BindingError} {rest : List BindingError} (h : r.validateClass c = first :: rest) :
    ∃ e p, Plan.build r c = .error e ∧ Blamed r c first e p := by
  rw [Registry.validateClass_eq, List.filterMap_eq_cons_iff] at h
  obtain ⟨done, p, after, hsplit, hdone, hreport, -⟩ := h
  have hp : p ∈ c.positions := by simp [hsplit]
  obtain ⟨e, hrefusal, hcause⟩ :=
    Registry.exists_refusal_of_report? (MarkedClass.kind_not_mem_before hkinds hp) hreport
  -- Nothing is reported about the markers before, so none of them is refused.
  have hpassed : ∀ q ∈ done, r.refusal? q.passed (q.member, q.marker) = none :=
    fun q hq => (Registry.report?_eq_none_iff.mp (hdone q hq)).1
  have hnone := List.findSome?_eq_none_iff.mpr hpassed
  obtain ⟨hbefore, hthrough⟩ := MarkedClass.positions_eq_append_cons hsplit
  refine ⟨e, p, ?_, hp, ?_, ?_, ?_, ?_, hcause⟩
  · rw [Plan.build_eq_error_iff, hsplit, List.findSome?_append, hnone, List.findSome?_cons,
      hrefusal]
    rfl
  · rw [Registry.validateClass_eq, hbefore, List.filterMap_eq_nil_iff]
    exact hdone
  · rw [Plan.exists_build_iff, Plan.firstRefusal?_eq, hbefore]
    exact hnone
  · rw [Registry.validateClass_eq, hthrough, List.filterMap_append,
      List.filterMap_eq_nil_iff.mpr hdone, List.filterMap_cons_some hreport]
    rfl
  · rw [Plan.build_eq_error_iff, hthrough, List.findSome?_append, hnone, List.findSome?_cons,
      hrefusal]
    rfl

/-- A class without failures has a plan. -/
theorem exists_build_of_validateClass (h : r.validateClass c = []) : ∃ p, Plan.build r c = .ok p := by
  rw [Registry.validateClass_eq_nil_iff] at h
  rw [Plan.exists_build_iff, Plan.firstRefusal?_eq, List.findSome?_eq_none_iff]
  exact fun p hp => (Registry.report?_eq_none_iff.mp (h p hp)).1

/-- A class whose members repeat no kind has failures exactly when it
has no plan. The construction of the plan then ends with an error, and
the marker that it ends at is the one that the first failure is about. -/
theorem build_eq_error_iff_and_blamed (r : Registry) (c : MarkedClass)
    (hkinds : ∀ m ∈ c.members, (m.markers.map Marker.kind).Nodup) :
    ((∃ e, Plan.build r c = .error e) ↔ r.validateClass c ≠ [])
      ∧ ∀ first rest, r.validateClass c = first :: rest →
        ∃ e p, Plan.build r c = .error e ∧ Blamed r c first e p := by
  refine ⟨⟨?_, ?_⟩, fun first rest h => exists_blamed hkinds h⟩
  · rintro ⟨e, he⟩ hnil
    obtain ⟨p, hp⟩ := exists_build_of_validateClass hnil
    rw [hp] at he
    exact absurd he (by simp)
  · intro hne
    obtain ⟨first, rest, hfirst⟩ := List.exists_cons_of_ne_nil hne
    obtain ⟨e, -, he, -⟩ := exists_blamed hkinds hfirst
    exact ⟨e, he⟩

end

/-! ### An overloaded method without views -/

namespace OverloadedSave

/-- The callback of a listener. -/
def onSave : Method := { name := "onSave", parameters := [.view], returns := .void, isAbstract := true }

/-- A listener with that callback. -/
def resolved : ResolvedListener :=
  { spec := { owner := .view, listener := ⟨"com.example.OnSave"⟩, setter := "setOnSave" }
    setter := { name := "setOnSave", parameters := [⟨"com.example.OnSave"⟩], returns := .void }
    callback := onSave
    stubs := []
    isInterface := true }

/-- The kind of the listener. -/
def kind : Kind := ⟨"OnSave"⟩

/-- The registry with the kind. -/
def registry : Registry := (Registry.ofClassPath .empty).enter kind (.listener resolved)

/-- The method that is bound. -/
def save : Method := { name := "save", parameters := [], returns := .void }

/-- Another method of the name. -/
def saveAll : Method := { name := "save", parameters := [.view], returns := .void }

/-- A marker for one view. -/
def viewed : Marker := ⟨kind, [⟨1⟩], false⟩

/-- A marker without a view. -/
def unviewed : Marker := ⟨kind, [], false⟩

/-- Of two methods of one name that listen with one kind, the second has no view to listen to. -/
def sample : MarkedClass :=
  { name := ⟨"com.example.Sample"⟩
    members := [⟨.method save, [viewed]⟩, ⟨.method saveAll, [unviewed]⟩] }

/-- What the registry answers about the kind. -/
theorem descriptor?_kind : registry.descriptor? kind = some (.listener resolved) := by
  rw [registry, Registry.descriptor?_enter, if_pos rfl]

/-- The first marker is valid. -/
theorem valid_save : registry.Valid (.method save) viewed
    (.listener kind save [⟨1⟩] false resolved [] .nothing) :=
  .listener descriptor?_kind ⟨by simp, by decide, rfl, by simp, by decide⟩ (by decide +kernel) rfl

/-- The second marker has no ids. -/
theorem validate_saveAll : registry.validate (.method saveAll) unviewed
    = .error (.marker (.noIds kind (.method saveAll))) := by
  have hfamily : registry.family kind = .ok .listener :=
    Registry.family_eq_ok_iff.mpr ⟨_, descriptor?_kind, rfl⟩
  simp only [Registry.validate, show unviewed.kind = kind from rfl, hfamily]
  rfl

/-- The check of the class names the clash of the two listeners. -/
theorem validateClass_sample :
    registry.validateClass sample = [.marker (.overloaded kind saveAll)] := by
  have hfamily : registry.family kind = .ok .listener :=
    Registry.family_eq_ok_iff.mpr ⟨_, descriptor?_kind, rfl⟩
  have hviewed : viewed.kind = kind := rfl
  have hunviewed : unviewed.kind = kind := rfl
  have hname : saveAll.name = save.name := rfl
  have hsave : registry.failure? (.method save) viewed = none :=
    Registry.failure?_eq_none_iff.mpr ⟨_, valid_save⟩
  simp [Registry.validateClass, sample, Registry.membersFailures, Registry.memberFailures,
    Registry.listenerKey?, hfamily, hviewed, hunviewed, hname, hsave]

/-- The plan of the class ends with the missing ids. -/
theorem build_sample :
    Plan.build registry sample = .error (.marker (.noIds kind (.method saveAll))) := by
  have hplacements : sample.placements = [(.method save, viewed), (.method saveAll, unviewed)] := rfl
  rw [Plan.build, hplacements]
  simp only [List.foldlM_cons, Draft.place, valid_save.validate, validate_saveAll]
  rfl

/-- The class fails for a clash and its plan for the missing ids, and both blame the second method. -/
theorem blamed_saveAll :
    (∀ m ∈ sample.members, (m.markers.map Marker.kind).Nodup)
      ∧ registry.validateClass sample = [.marker (.overloaded kind saveAll)]
      ∧ Plan.build registry sample = .error (.marker (.noIds kind (.method saveAll)))
      ∧ ∃ p, Blamed registry sample (.marker (.overloaded kind saveAll))
        (.marker (.noIds kind (.method saveAll))) p := by
  have hkinds : ∀ m ∈ sample.members, (m.markers.map Marker.kind).Nodup := by decide
  obtain ⟨-, hblamed⟩ := build_eq_error_iff_and_blamed registry sample hkinds
  obtain ⟨e, p, he, hp⟩ := hblamed _ _ validateClass_sample
  rw [build_sample] at he
  cases he
  exact ⟨hkinds, validateClass_sample, build_sample, p, hp⟩

end OverloadedSave

end BindingCompiler
