import BindingCompiler.Marker.Validation

/-!
# `BindingCompiler.Proofs.Marker.Report`: the failures of a class, marker by marker

`Registry.validateClass` walks over members and markers with two lists
at hand: the kinds seen on the member and the listeners seen on the
class. `Registry.report?` says without them what is reported about a
marker, from the members and markers that stand before it.

* `memberFailures_cons`: one step of the walk, which keeps the two lists
  true to what it has passed (`Walked`).
* `validateClass_eq`: the failures of a class are the reports about its
  markers, in order.
* `validateClass_eq_nil_iff`: a class without failures.
-/

set_option autoImplicit false

namespace BindingCompiler

/-! ### Markers in their places -/

/-- A marker in its place: after some members, and after some markers of its own member. -/
structure Position where
  earlier : List MarkedMember
  member : Member
  before : List Marker
  marker : Marker

/-- Each marker of a member with the member. -/
def MarkedMember.placements (m : MarkedMember) : List (Member × Marker) :=
  m.markers.map fun marker => (m.member, marker)

/-- The markers that stand before a position, on the members before its
own and on its own. -/
def Position.passed (p : Position) : List (Member × Marker) :=
  p.earlier.flatMap MarkedMember.placements ++ p.before.map fun marker => (p.member, marker)

/-- The positions of a member's markers that stand after `before`. -/
def positionsOn (earlier : List MarkedMember) (member : Member) (before : List Marker) :
    List Marker → List Position
  | [] => []
  | marker :: rest =>
    ⟨earlier, member, before, marker⟩ :: positionsOn earlier member (before ++ [marker]) rest

/-- The positions on some members that stand after `earlier`. -/
def positionsAfter (earlier : List MarkedMember) : List MarkedMember → List Position
  | [] => []
  | m :: rest => positionsOn earlier m.member [] m.markers ++ positionsAfter (earlier ++ [m]) rest

/-- Every marker of a class in its place, in order. -/
def MarkedClass.positions (c : MarkedClass) : List Position := positionsAfter [] c.members

/-- The positions on a member divide its markers. -/
theorem mem_positionsOn_iff {p : Position} {earlier : List MarkedMember} {member : Member}
    {before markers : List Marker} :
    p ∈ positionsOn earlier member before markers
      ↔ ∃ done rest, markers = done ++ p.marker :: rest
        ∧ p = ⟨earlier, member, before ++ done, p.marker⟩ := by
  induction markers generalizing before with
  | nil => simp [positionsOn]
  | cons marker markers ih =>
      rw [positionsOn, List.mem_cons, ih]
      constructor
      · rintro (rfl | ⟨done, rest, hsplit, hp⟩)
        · exact ⟨[], markers, rfl, by simp⟩
        · refine ⟨marker :: done, rest, by simp [hsplit], ?_⟩
          rw [hp]
          simp
      · rintro ⟨done, rest, hsplit, hp⟩
        cases done with
        | nil =>
            obtain ⟨hmarker, -⟩ := List.cons.inj hsplit
            refine .inl ?_
            rw [hp, ← hmarker, List.append_nil]
        | cons first done =>
            obtain ⟨rfl, hrest⟩ := List.cons.inj hsplit
            refine .inr ⟨done, rest, hrest, ?_⟩
            rw [hp]
            simp

/-- The positions on some members divide the members, and the markers of one of them. -/
theorem mem_positionsAfter_iff {p : Position} {earlier members : List MarkedMember} :
    p ∈ positionsAfter earlier members
      ↔ ∃ done rest markers,
        members = done ++ ⟨p.member, p.before ++ p.marker :: markers⟩ :: rest
          ∧ p.earlier = earlier ++ done := by
  induction members generalizing earlier with
  | nil => simp [positionsAfter]
  | cons m members ih =>
      rw [positionsAfter, List.mem_append, mem_positionsOn_iff, ih]
      constructor
      · rintro (⟨done, rest, hsplit, hp⟩ | ⟨done, rest, markers, hsplit, hp⟩)
        · refine ⟨[], members, rest, ?_, ?_⟩
          · rw [hp]
            simp [← hsplit]
          · rw [hp]
            simp
        · exact ⟨m :: done, rest, markers, by simp [hsplit], by simp [hp]⟩
      · rintro ⟨done, rest, markers, hsplit, hp⟩
        cases done with
        | nil =>
            obtain ⟨rfl, -⟩ := List.cons.inj hsplit
            refine .inl ⟨p.before, markers, rfl, ?_⟩
            rw [List.append_nil] at hp
            rw [← hp]
            rfl
        | cons first done =>
            obtain ⟨rfl, hrest⟩ := List.cons.inj hsplit
            exact .inr ⟨done, rest, markers, hrest, by simp [hp]⟩

/-- The positions of a class divide its members, and the markers of one of them. -/
theorem MarkedClass.mem_positions_iff {p : Position} {c : MarkedClass} :
    p ∈ c.positions
      ↔ ∃ rest markers,
        c.members = p.earlier ++ ⟨p.member, p.before ++ p.marker :: markers⟩ :: rest := by
  rw [MarkedClass.positions, mem_positionsAfter_iff]
  constructor
  · rintro ⟨done, rest, markers, hsplit, hp⟩
    exact ⟨rest, markers, by rw [hp]; exact hsplit⟩
  · rintro ⟨rest, markers, hsplit⟩
    exact ⟨p.earlier, rest, markers, hsplit, rfl⟩

namespace Registry

/-! ### What is reported about a marker -/

/-- The keys of the listeners among some markers. -/
def listenerKeys (r : Registry) (placements : List (Member × Marker)) : List ListenerKey :=
  placements.filterMap fun q => r.listenerKey? q.1 q.2

/-- The failure of a listener whose key is taken. -/
def clash? (r : Registry) (taken : List ListenerKey) (member : Member) (marker : Marker) :
    Option BindingError :=
  match member, r.listenerKey? member marker with
  | .method m, some key =>
    if taken.contains key then some (.marker (.overloaded marker.kind m)) else none
  | _, _ => none

/-- What is reported about a marker: that its kind stands on the member
before; or else that an earlier member has its key; or else what is
wrong with it by itself. -/
def report? (r : Registry) (p : Position) : Option BindingError :=
  if (p.before.map Marker.kind).contains p.marker.kind then
    some (.marker (.duplicate p.marker.kind p.member))
  else
    (r.clash? (r.listenerKeys (p.earlier.flatMap MarkedMember.placements)) p.member p.marker).or
      (r.failure? p.member p.marker)

variable {r : Registry} {member : Member} {marker : Marker} {key : ListenerKey}

/-- Keys belong to listener kinds on methods. -/
theorem listenerKey?_eq_some_iff :
    r.listenerKey? member marker = some key
      ↔ ∃ m, member = .method m ∧ r.family marker.kind = .ok .listener
        ∧ key = (m.name, marker.kind) := by
  unfold listenerKey?
  split
  · rename_i m hfamily
    simp [hfamily, eq_comm]
  · rename_i hno
    refine ⟨fun h => absurd h (by simp), ?_⟩
    rintro ⟨m, rfl, hfamily, -⟩
    exact (hno m rfl hfamily).elim

/-- The keys among the markers of one member. -/
theorem mem_listenerKeys_map_iff {markers : List Marker} :
    key ∈ r.listenerKeys (markers.map fun marker => (member, marker))
      ↔ ∃ marker ∈ markers, r.listenerKey? member marker = some key := by
  simp [listenerKeys, List.mem_filterMap]

/-- The keys among the markers of two lists. -/
theorem mem_listenerKeys_append_iff {l l' : List (Member × Marker)} :
    key ∈ r.listenerKeys (l ++ l') ↔ key ∈ r.listenerKeys l ∨ key ∈ r.listenerKeys l' := by
  simp [listenerKeys, List.filterMap_append]

/-- A listener does not clash when its key is not taken. -/
theorem clash?_eq_none_iff {taken : List ListenerKey} :
    r.clash? taken member marker = none
      ↔ ∀ key, r.listenerKey? member marker = some key → key ∉ taken := by
  unfold clash?
  split
  · rename_i m k hkey
    simp [hkey]
  · rename_i hno
    refine ⟨fun _ key hkey => ?_, fun _ => rfl⟩
    obtain ⟨m, rfl, -⟩ := listenerKey?_eq_some_iff.mp hkey
    exact (hno m key rfl hkey).elim

/-- Two lists of taken keys that agree on the key of a marker agree on its clash. -/
theorem clash?_congr {taken taken' : List ListenerKey}
    (h : ∀ key, r.listenerKey? member marker = some key → (key ∈ taken ↔ key ∈ taken')) :
    r.clash? taken member marker = r.clash? taken' member marker := by
  unfold clash?
  split
  · rename_i m key hkey
    simp [List.contains_eq_mem, h key hkey]
  · rfl

/-- Two markers of one kind on a member have the same key. -/
theorem listenerKey?_congr {other : Marker} (h : other.kind = marker.kind) :
    r.listenerKey? member other = r.listenerKey? member marker := by
  simp only [listenerKey?, h]

/-- A key names its kind: it stands before a marker that has it exactly
when the marker's kind does. -/
theorem exists_key_before_iff {before : List Marker} (hkey : r.listenerKey? member marker = some key) :
    (∃ other ∈ before, r.listenerKey? member other = some key)
      ↔ marker.kind ∈ before.map Marker.kind := by
  rw [List.mem_map]
  constructor
  · rintro ⟨other, hother, hsame⟩
    obtain ⟨_, -, -, rfl⟩ := listenerKey?_eq_some_iff.mp hkey
    obtain ⟨_, -, -, heq⟩ := listenerKey?_eq_some_iff.mp hsame
    exact ⟨other, hother, (congrArg Prod.snd heq).symm⟩
  · rintro ⟨other, hother, hkind⟩
    rw [← listenerKey?_congr hkind] at hkey
    exact ⟨other, hother, hkey⟩

/-! ### The walk over a member -/

/-- The two lists of the walk, after some members and some markers of
the next: the kinds seen on the member, and the listeners seen on the class. -/
structure Walked (r : Registry) (earlier : List MarkedMember) (member : Member)
    (before : List Marker) (seen : List Kind) (listened : List ListenerKey) : Prop where
  seen_iff : ∀ kind, kind ∈ seen ↔ kind ∈ before.map Marker.kind
  listened_iff : ∀ key, key ∈ listened
    ↔ key ∈ r.listenerKeys (earlier.flatMap MarkedMember.placements)
      ∨ ∃ marker ∈ before, r.listenerKey? member marker = some key

namespace Walked

variable {earlier : List MarkedMember} {before : List Marker} {seen : List Kind}
  {listened : List ListenerKey}

/-- At the start of a member no kind is seen. -/
theorem initial (h : ∀ key, key ∈ listened
      ↔ key ∈ r.listenerKeys (earlier.flatMap MarkedMember.placements)) :
    r.Walked earlier member [] [] listened where
  seen_iff := by simp
  listened_iff := by simpa using h

/-- A repeated kind adds nothing to the two lists. -/
theorem repeated (h : r.Walked earlier member before seen listened) (hseen : marker.kind ∈ seen) :
    r.Walked earlier member (before ++ [marker]) seen listened where
  seen_iff kind := by
    rw [List.map_append, List.mem_append, ← h.seen_iff]
    refine ⟨.inl, ?_⟩
    rintro (hkind | hkind)
    · exact hkind
    · rw [show kind = marker.kind by simpa using hkind]
      exact hseen
  listened_iff key := by
    rw [h.listened_iff]
    refine or_congr .rfl ⟨?_, ?_⟩
    · rintro ⟨other, hother, hkey⟩
      exact ⟨other, List.mem_append_left _ hother, hkey⟩
    · rintro ⟨other, hother, hkey⟩
      rcases List.mem_append.mp hother with hother | hother
      · exact ⟨other, hother, hkey⟩
      · -- The first marker of the kind has brought the key already.
        rw [List.mem_singleton.mp hother] at hkey
        exact (exists_key_before_iff hkey).mpr ((h.seen_iff _).mp hseen)

/-- A new kind is seen from then on, and so is the key that it brings. -/
theorem extended {listened' : List ListenerKey} (h : r.Walked earlier member before seen listened)
    (hkeys : ∀ key, key ∈ listened' ↔ key ∈ listened ∨ r.listenerKey? member marker = some key) :
    r.Walked earlier member (before ++ [marker]) (marker.kind :: seen) listened' where
  seen_iff kind := by simp [h.seen_iff, or_comm]
  listened_iff key := by
    rw [hkeys, h.listened_iff, or_assoc]
    refine or_congr .rfl ⟨?_, ?_⟩
    · rintro (⟨other, hother, hkey⟩ | hkey)
      · exact ⟨other, List.mem_append_left _ hother, hkey⟩
      · exact ⟨marker, by simp, hkey⟩
    · rintro ⟨other, hother, hkey⟩
      rcases List.mem_append.mp hother with hother | hother
      · exact .inl ⟨other, hother, hkey⟩
      · rw [List.mem_singleton.mp hother] at hkey
        exact .inr hkey

/-- A repeated kind is reported as such. -/
theorem report?_of_mem (h : r.Walked earlier member before seen listened)
    (hseen : marker.kind ∈ seen) :
    r.report? ⟨earlier, member, before, marker⟩
      = some (.marker (.duplicate marker.kind member)) := by
  rw [h.seen_iff] at hseen
  rw [report?, if_pos (by simpa using hseen)]

/-- About a new kind, the listeners seen on the member itself say nothing:
a key names its kind. -/
theorem report?_of_not_mem (h : r.Walked earlier member before seen listened)
    (hseen : marker.kind ∉ seen) :
    r.report? ⟨earlier, member, before, marker⟩
      = (r.clash? listened member marker).or (r.failure? member marker) := by
  rw [h.seen_iff] at hseen
  rw [report?, if_neg (by simpa using hseen)]
  congr 1
  refine clash?_congr fun key hkey => ?_
  rw [h.listened_iff, exists_key_before_iff hkey]
  exact (or_iff_left hseen).symm

end Walked

/-- One step of the walk over the markers of a member. -/
theorem memberFailures_cons {member : Member} {earlier : List MarkedMember}
    {before : List Marker} {seen : List Kind} {listened : List ListenerKey}
    (h : r.Walked earlier member before seen listened) (marker : Marker) (rest : List Marker) :
    ∃ seen' listened', r.Walked earlier member (before ++ [marker]) seen' listened'
      ∧ r.memberFailures member seen listened (marker :: rest)
        = ((r.report? ⟨earlier, member, before, marker⟩).toList
            ++ (r.memberFailures member seen' listened' rest).1,
          (r.memberFailures member seen' listened' rest).2) := by
  -- A repeated kind, a key that is taken, a key that is free, or no key at all.
  by_cases hseen : marker.kind ∈ seen
  · refine ⟨seen, listened, h.repeated hseen, ?_⟩
    rw [memberFailures, if_pos (by simpa using hseen), h.report?_of_mem hseen]
    rfl
  · rw [memberFailures, if_neg (by simpa using hseen), h.report?_of_not_mem hseen]
    split
    · rename_i m key hkey
      split
      · rename_i htaken
        refine ⟨marker.kind :: seen, listened, h.extended fun key' => ?_, ?_⟩
        · rw [hkey, Option.some.injEq]
          refine ⟨.inl, ?_⟩
          rintro (hmem | rfl)
          · exact hmem
          · simpa using htaken
        · simp only [clash?, hkey, if_pos htaken]
          rfl
      · rename_i htaken
        refine ⟨marker.kind :: seen, key :: listened, h.extended fun key' => ?_, ?_⟩
        · rw [hkey, Option.some.injEq, List.mem_cons, or_comm, eq_comm]
        · simp only [clash?, hkey, if_neg htaken]
          rfl
    · rename_i member _ _ hno
      -- A marker without a key neither clashes nor brings one.
      have hkey : ∀ key, r.listenerKey? member marker ≠ some key := by
        intro key hkey
        obtain ⟨m, hm, -⟩ := listenerKey?_eq_some_iff.mp hkey
        exact (hno m key hm hkey).elim
      refine ⟨marker.kind :: seen, listened, h.extended fun key => by simp [hkey], ?_⟩
      rw [clash?_eq_none_iff.mpr fun key hmem => absurd hmem (hkey key)]
      rfl

/-- The walk over the markers of a member reports about each of them. -/
theorem memberFailures_eq {earlier : List MarkedMember} {before : List Marker}
    {seen : List Kind} {listened : List ListenerKey}
    (h : r.Walked earlier member before seen listened) (markers : List Marker) :
    (r.memberFailures member seen listened markers).1
        = (positionsOn earlier member before markers).filterMap r.report?
      ∧ ∃ seen', r.Walked earlier member (before ++ markers) seen'
        (r.memberFailures member seen listened markers).2 := by
  -- The two lists and the markers passed grow together, one step at a time.
  induction markers generalizing before seen listened with
  | nil =>
      refine ⟨rfl, seen, ?_⟩
      rw [List.append_nil]
      exact h
  | cons marker rest ih =>
      obtain ⟨seen', listened', hnext, hstep⟩ := memberFailures_cons h marker rest
      obtain ⟨herrors, seen'', hend⟩ := ih hnext
      rw [hstep, positionsOn]
      refine ⟨?_, seen'', ?_⟩
      · rw [List.filterMap_cons, herrors]
        cases r.report? ⟨earlier, member, before, marker⟩ <;> rfl
      · rw [List.append_assoc] at hend
        exact hend

/-! ### The walk over a class -/

/-- The walk over some members reports about each of their markers. -/
theorem membersFailures_eq {earlier : List MarkedMember} {listened : List ListenerKey}
    (h : ∀ key, key ∈ listened
      ↔ key ∈ r.listenerKeys (earlier.flatMap MarkedMember.placements))
    (members : List MarkedMember) :
    r.membersFailures listened members = (positionsAfter earlier members).filterMap r.report? := by
  induction members generalizing earlier listened with
  | nil => rfl
  | cons m rest ih =>
      have hstart : r.Walked earlier m.member [] [] listened := .initial h
      obtain ⟨herrors, seen, hend⟩ := memberFailures_eq hstart m.markers
      show (r.memberFailures m.member [] listened m.markers).1 ++ _ = _
      rw [positionsAfter, List.filterMap_append, herrors]
      -- What is listened to after a member is what was before, with the keys of the member.
      refine congrArg _ (ih fun key => ?_)
      rw [hend.listened_iff, List.flatMap_append, mem_listenerKeys_append_iff]
      refine or_congr .rfl ?_
      rw [List.flatMap_singleton, MarkedMember.placements, mem_listenerKeys_map_iff, List.nil_append]

/-- The failures of a class are what is reported about its markers, in their order. -/
theorem validateClass_eq (r : Registry) (c : MarkedClass) :
    r.validateClass c = c.positions.filterMap r.report? :=
  membersFailures_eq (by simp [listenerKeys]) c.members

/-- A class has no failures when nothing is reported about any of its markers. -/
theorem validateClass_eq_nil_iff {c : MarkedClass} :
    r.validateClass c = [] ↔ ∀ p ∈ c.positions, r.report? p = none := by
  rw [validateClass_eq, List.filterMap_eq_nil_iff]

end Registry

end BindingCompiler
