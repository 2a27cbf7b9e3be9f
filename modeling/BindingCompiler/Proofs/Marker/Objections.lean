import BindingCompiler.Proofs.Marker.Report
import Mathlib.Data.List.ReduceOption

/-!
# `BindingCompiler.Proofs.Marker.Objections`: at most one error a marker

`Registry.validateClass` walks over a class with two lists. One holds the kinds of the member at
hand and is emptied at the next member. The other one holds the listeners of the whole class, also
those of markers that fail and of the member at hand.

`Registry.objection?` needs no lists. It says what is wrong with a marker from the members and
the markers that stand before it: its kind stands on the member already, or else a method of the
same name before has it as a listener, or else the marker is not valid by itself.
`validateClass_eq_reduceOption` says that the errors of a class are these objections, at most one
to each marker, in the order of the members and of the markers on each of them.
-/

set_option autoImplicit false

namespace BindingCompiler

/-! ### The markers before a marker -/

/-- Whether a member is a method of the name that has a marker of the kind. -/
def MarkedMember.hasOnMethod (name : String) (kind : Kind) (m : MarkedMember) : Bool :=
  match m.member with
  | .method method => method.name == name && m.markers.any fun marker => marker.kind == kind
  | .field _ => false

/-- The error for a marker, after some members and after some markers of its own member. -/
def Registry.objection? (r : Registry) (earlier : List MarkedMember) (member : Member)
    (before : List Marker) (marker : Marker) : Option BindingError :=
  if before.any fun other => other.kind == marker.kind then
    some (.marker (.duplicate marker.kind member))
  else
    match member with
    | .method m =>
      if r.family marker.kind = .ok .listener
          ∧ earlier.any (MarkedMember.hasOnMethod m.name marker.kind) then
        some (.marker (.overloaded marker.kind m))
      else r.failure? member marker
    | .field _ => r.failure? member marker

/-! ### Positions by their numbers -/

/-- The positions on a member, with what stands before each taken from the whole list. -/
theorem positionsOn_eq_mapIdx (earlier : List MarkedMember) (member : Member)
    (before markers : List Marker) :
    positionsOn earlier member before markers
      = markers.mapIdx fun k marker => ⟨earlier, member, before ++ markers.take k, marker⟩ := by
  -- The walk moves the first marker to those before, so they vary in the induction.
  induction markers generalizing before with
  | nil => rfl
  | cons marker rest ih =>
      rw [positionsOn, ih, List.mapIdx_cons]
      simp

/-- The positions on some members, with what stands before each taken from the whole lists. -/
theorem positionsAfter_eq_mapIdx (earlier members : List MarkedMember) :
    positionsAfter earlier members
      = (members.mapIdx fun i m => m.markers.mapIdx fun k marker =>
          (⟨earlier ++ members.take i, m.member, m.markers.take k, marker⟩ : Position)).flatten := by
  induction members generalizing earlier with
  | nil => rfl
  | cons m rest ih =>
      rw [positionsAfter, ih, positionsOn_eq_mapIdx, List.mapIdx_cons]
      simp

namespace Registry

variable {r : Registry} {earlier : List MarkedMember} {m : Method} {marker : Marker}

/-! ### Listeners before a marker -/

/-- Among the listeners of some members is that of a method and a marker exactly if the kind is one
of listeners and an earlier method of the name has a marker of it. -/
theorem mem_listenerKeys_iff :
    (m.name, marker.kind) ∈ r.listenerKeys (earlier.flatMap MarkedMember.placements)
      ↔ r.family marker.kind = .ok .listener
        ∧ earlier.any (MarkedMember.hasOnMethod m.name marker.kind) = true := by
  rw [listenerKeys, List.mem_filterMap, List.any_eq_true]
  constructor
  · rintro ⟨⟨member, other⟩, hplaced, hkey⟩
    obtain ⟨e, he, hmem⟩ := List.mem_flatMap.mp hplaced
    obtain ⟨other', hother, heq⟩ := List.mem_map.mp hmem
    obtain ⟨hmember, rfl⟩ := Prod.mk.inj heq
    obtain ⟨method, hmethod, hfamily, hpair⟩ := listenerKey?_eq_some_iff.mp hkey
    obtain ⟨hname, hkind⟩ := Prod.mk.inj hpair
    have hmember : e.member = .method method := hmember.trans hmethod
    refine ⟨hkind ▸ hfamily, e, he, ?_⟩
    simp only [MarkedMember.hasOnMethod, hmember, Bool.and_eq_true, beq_iff_eq, List.any_eq_true]
    exact ⟨hname.symm, other', hother, hkind.symm⟩
  · rintro ⟨hfamily, e, he, hhas⟩
    unfold MarkedMember.hasOnMethod at hhas
    split at hhas
    · rename_i method hmethod
      simp only [Bool.and_eq_true, beq_iff_eq, List.any_eq_true] at hhas
      obtain ⟨hname, other, hother, hkind⟩ := hhas
      have hplaced : (e.member, other) ∈ e.placements := List.mem_map.mpr ⟨other, hother, rfl⟩
      refine ⟨(e.member, other), List.mem_flatMap.mpr ⟨e, he, hplaced⟩, ?_⟩
      rw [listenerKey?_eq_some_iff]
      exact ⟨method, hmethod, hkind ▸ hfamily, by rw [hname, hkind]⟩
    · exact absurd hhas Bool.false_ne_true

/-- A listener on a method clashes with earlier ones exactly if an earlier method of the name
listens by its kind. Other markers clash with nothing. -/
theorem clash?_listenerKeys (member : Member) :
    r.clash? (r.listenerKeys (earlier.flatMap MarkedMember.placements)) member marker
      = match member with
        | .method m =>
          if r.family marker.kind = .ok .listener
              ∧ earlier.any (MarkedMember.hasOnMethod m.name marker.kind) then
            some (.marker (.overloaded marker.kind m))
          else none
        | .field _ => none := by
  cases member with
  | field f => rfl
  | method m =>
      have hmem : (m.name, marker.kind) ∈ r.listenerKeys (earlier.flatMap MarkedMember.placements)
          ↔ _ := mem_listenerKeys_iff
      by_cases hfamily : r.family marker.kind = .ok .listener
      · have hkey : r.listenerKey? (.method m) marker = some (m.name, marker.kind) :=
          listenerKey?_eq_some_iff.mpr ⟨m, rfl, hfamily, rfl⟩
        simp only [clash?, hkey, List.contains_iff_mem, hmem]
      · -- A marker of another family has no key.
        have hkey : ∀ key, r.listenerKey? (.method m) marker ≠ some key := by
          intro key hkey
          obtain ⟨_, -, hlistener, -⟩ := listenerKey?_eq_some_iff.mp hkey
          exact hfamily hlistener
        rw [clash?_eq_none_iff.mpr fun key h => absurd h (hkey key)]
        simp [hfamily]

/-- What is reported about a marker in its place is the objection to it. -/
theorem report?_eq_objection? (p : Position) :
    r.report? p = r.objection? p.earlier p.member p.before p.marker := by
  obtain ⟨earlier, member, before, marker⟩ := p
  have hrepeated : (before.map Marker.kind).contains marker.kind
      = before.any fun other => other.kind == marker.kind := by
    rw [List.contains_eq_any_beq, List.any_map]
    exact List.any_congr rfl fun other => Bool.beq_comm
  unfold report? objection?
  rw [clash?_listenerKeys, hrepeated]
  -- Both sides ask about the kind on the member first, and about the methods before it then.
  split
  · rfl
  · cases member with
    | field f => rfl
    | method m =>
        dsimp only
        split <;> rfl

/-- The errors of a class are the objections to its markers, at most one to each, in the order of
the members and of the markers on each of them. -/
theorem validateClass_eq_reduceOption (r : Registry) (c : MarkedClass) :
    r.validateClass c
      = (c.members.mapIdx fun i m => m.markers.mapIdx fun k marker =>
          r.objection? (c.members.take i) m.member (m.markers.take k) marker).flatten.reduceOption := by
  have hpositions : c.positions.map r.report?
      = (c.members.mapIdx fun i m => m.markers.mapIdx fun k marker =>
          r.objection? (c.members.take i) m.member (m.markers.take k) marker).flatten := by
    rw [MarkedClass.positions, positionsAfter_eq_mapIdx, List.map_flatten]
    simp only [List.mapIdx_eq_zipIdx_map, List.map_map, Function.comp_def, report?_eq_objection?,
      List.nil_append]
  rw [validateClass_eq, ← hpositions, List.reduceOption, List.filterMap_map]
  rfl

end Registry

end BindingCompiler
