import BindingCompiler.Plan.Build

/-!
# `BindingCompiler.Proofs.Plan.Views`: the views that markers ask for

A plan keeps one view for each id and merges into it what every marker
asks for, one marker after the other. Here the result is given at once:
`ViewTarget.ofDemands` reads the view of an id off all demands, and
`recordAll_eq` says that recording the demands in turn lists these
views, one for each id, in the order in which the ids first occur.
-/

set_option autoImplicit false

namespace BindingCompiler

/-! ### Lists without repetitions -/

/-- One more element is kept if it is new. -/
theorem eraseDups_concat {α : Type} [BEq α] [LawfulBEq α] (l : List α) (a : α) :
    (l ++ [a]).eraseDups = if l.contains a then l.eraseDups else l.eraseDups ++ [a] := by
  rw [List.eraseDups_append, List.removeAll]
  cases ha : l.contains a with
  | true => simp [-List.contains_eq_mem, ha]
  | false => simp [-List.contains_eq_mem, ha, List.eraseDups_cons]

/-- Nothing is kept twice. -/
theorem nodup_eraseDups {α : Type} [BEq α] [LawfulBEq α] (l : List α) : l.eraseDups.Nodup := by
  suffices hgrow : ∀ rest done : List α, done.eraseDups.Nodup → (done ++ rest).eraseDups.Nodup by
    simpa using hgrow l [] (by simp)
  intro rest
  induction rest with
  | nil => simp
  | cons a rest ih =>
      intro done hdone
      rw [List.append_cons]
      refine ih (done ++ [a]) ?_
      rw [eraseDups_concat]
      split
      · exact hdone
      · rename_i hnew
        rw [List.nodup_append]
        refine ⟨hdone, by simp, ?_⟩
        intro x hx y hy hxy
        rw [List.mem_singleton.mp hy] at hxy
        rw [hxy, List.mem_eraseDups] at hx
        exact hnew (by simpa using hx)

/-! ### Demands -/

/-- What a marker asks for: the view of an id, for a member, which may
do without it or not. -/
structure Demand where
  id : ResourceId
  owner : ViewOwner
  isOptional : Bool

namespace ViewTarget

/-- Records demands in turn. -/
def recordAll (demands : List Demand) (views : List ViewTarget) : List ViewTarget :=
  demands.foldl (fun views q => record q.id q.owner q.isOptional views) views

/-- Demands that are recorded after others extend the views of these. -/
theorem recordAll_append (demands more : List Demand) (views : List ViewTarget) :
    recordAll (demands ++ more) views = recordAll more (recordAll demands views) :=
  List.foldl_append

/-- The view of an id, by all the demands for it. -/
def ofDemands (demands : List Demand) (id : ResourceId) : ViewTarget :=
  let own := demands.filter fun q => q.id == id
  { id
    field := viewField id
    owners := (own.map Demand.owner).eraseDups
    isRequired := own.any fun q => !q.isOptional }

/-- The views of all demands, in the order in which their ids first occur. -/
def allOfDemands (demands : List Demand) : List ViewTarget :=
  (demands.map Demand.id).eraseDups.map (ofDemands demands)

/-! ### Recording one demand -/

section
variable {id : ResourceId} {owner : ViewOwner} {isOptional : Bool} {views : List ViewTarget}

/-- An id without a view gets a view at the end. -/
theorem record_of_not_mem (h : id ∉ views.map ViewTarget.id) :
    record id owner isOptional views = views ++ [ofOwner id owner isOptional] := by
  induction views with
  | nil => rfl
  | cons v rest ih =>
      rw [List.map_cons, List.mem_cons, not_or] at h
      rw [record, if_neg (Ne.symm h.1), ih h.2, List.cons_append]

/-- An id that has a view keeps its place; of views with distinct ids no other one changes. -/
theorem record_of_mem (hdistinct : (views.map ViewTarget.id).Nodup)
    (h : id ∈ views.map ViewTarget.id) :
    record id owner isOptional views
      = views.map fun v => if v.id = id then v.merge owner isOptional else v := by
  induction views with
  | nil => exact absurd h (by simp)
  | cons v rest ih =>
      rw [List.map_cons, List.nodup_cons] at hdistinct
      rw [record, List.map_cons]
      split
      · rename_i hv
        -- The id is found; no later view has it, so the rest maps to itself.
        congr 1
        refine (List.map_id' rest).symm.trans (List.map_congr_left fun w hw => ?_)
        have hother : w.id ≠ id := by
          intro hwid
          exact hdistinct.1 (hv ▸ hwid ▸ List.mem_map_of_mem hw)
        rw [if_neg hother]
      · rename_i hv
        rw [List.map_cons, List.mem_cons] at h
        rw [ih hdistinct.2 (h.resolve_left (Ne.symm hv))]

end

/-! ### The view of an id -/

section
variable {demands : List Demand} {q : Demand} {id : ResourceId}

/-- A demand for another id does not change a view. -/
theorem ofDemands_concat_of_ne (h : q.id ≠ id) :
    ofDemands (demands ++ [q]) id = ofDemands demands id := by
  simp [ofDemands, List.filter_append, h]

/-- A demand for an id is merged into its view. -/
theorem ofDemands_concat :
    ofDemands (demands ++ [q]) q.id = (ofDemands demands q.id).merge q.owner q.isOptional := by
  simp only [ofDemands, merge, List.filter_append, List.filter_cons, beq_self_eq_true, if_true,
    List.filter_nil, List.map_append, List.map_cons, List.map_nil, eraseDups_concat,
    List.any_append, List.any_cons, List.any_nil, Bool.or_false]
  congr 2
  simp [List.contains_eq_mem]

/-- The first demand for an id makes its view. -/
theorem ofDemands_of_not_mem (h : q.id ∉ demands.map Demand.id) :
    ofDemands (demands ++ [q]) q.id = ofOwner q.id q.owner q.isOptional := by
  have hnone : demands.filter (fun d => d.id == q.id) = [] := by
    rw [List.filter_eq_nil_iff]
    intro d hd hid
    exact h (List.mem_map.mpr ⟨d, hd, beq_iff_eq.mp hid⟩)
  simp [ofDemands, ofOwner, List.filter_append, hnone, List.eraseDups_cons]

/-- The ids of the views are those of the demands. -/
theorem map_id_allOfDemands :
    (allOfDemands demands).map ViewTarget.id = (demands.map Demand.id).eraseDups := by
  rw [allOfDemands, List.map_map]
  exact List.map_id _

/-- Recording one more demand. -/
theorem record_allOfDemands :
    record q.id q.owner q.isOptional (allOfDemands demands) = allOfDemands (demands ++ [q]) := by
  have hids : (demands ++ [q]).map Demand.id = demands.map Demand.id ++ [q.id] := by simp
  -- An id that is new gets a view at the end, and any other one is merged in its place.
  by_cases h : q.id ∈ demands.map Demand.id
  · have hmem : q.id ∈ (allOfDemands demands).map ViewTarget.id := by
      rw [map_id_allOfDemands, List.mem_eraseDups]
      exact h
    have hdistinct : ((allOfDemands demands).map ViewTarget.id).Nodup := by
      rw [map_id_allOfDemands]
      exact nodup_eraseDups _
    rw [record_of_mem hdistinct hmem, allOfDemands, allOfDemands, hids, eraseDups_concat,
      if_pos (by simpa using h), List.map_map]
    refine List.map_congr_left fun i _ => ?_
    show (if i = q.id then (ofDemands demands i).merge q.owner q.isOptional else _) = _
    split
    · rename_i hi
      rw [hi, ofDemands_concat]
    · rename_i hi
      rw [ofDemands_concat_of_ne (Ne.symm hi)]
  · have hmem : q.id ∉ (allOfDemands demands).map ViewTarget.id := by
      rw [map_id_allOfDemands, List.mem_eraseDups]
      exact h
    rw [record_of_not_mem hmem, allOfDemands, allOfDemands, hids, eraseDups_concat,
      if_neg (by simpa using h), List.map_append, List.map_singleton, ofDemands_of_not_mem h]
    refine congrArg (· ++ _) (List.map_congr_left fun i hi => ?_)
    rw [List.mem_eraseDups] at hi
    rw [ofDemands_concat_of_ne fun he => h (he ▸ hi)]

/-- Demands that are recorded in turn give one view for each id, merged
from all demands for it. -/
theorem recordAll_eq (demands : List Demand) : recordAll demands [] = allOfDemands demands := by
  suffices hgrow : ∀ rest done : List Demand,
      recordAll rest (allOfDemands done) = allOfDemands (done ++ rest) by
    exact hgrow demands []
  intro rest
  induction rest with
  | nil => simp [recordAll]
  | cons q rest ih =>
      intro done
      rw [List.append_cons, ← ih (done ++ [q]), ← record_allOfDemands]
      rfl

/-! ### Looking a view up -/

/-- Among the views of all demands, every id that is asked for finds its view. -/
theorem find?_allOfDemands (h : id ∈ demands.map Demand.id) :
    (allOfDemands demands).find? (fun v => v.id == id) = some (ofDemands demands id) := by
  rw [allOfDemands, List.find?_map]
  have hfound : (demands.map Demand.id).eraseDups.find? (fun i => i == id) = some id := by
    cases hfind : (demands.map Demand.id).eraseDups.find? fun i => i == id with
    | none => exact absurd (List.find?_eq_none.mp hfind id (List.mem_eraseDups.mpr h)) (by simp)
    | some i => rw [show i = id by simpa using List.find?_some hfind]
  show Option.map _ ((demands.map Demand.id).eraseDups.find? fun i => i == id) = _
  rw [hfound]
  rfl

/-- A view is listened to when a method asks for it. -/
theorem hasListeners_ofDemands :
    (ofDemands demands id).hasListeners = true
      ↔ ∃ q ∈ demands, q.id = id ∧ q.owner.isMethod = true := by
  simp only [hasListeners, ofDemands, List.any_eq_true, List.mem_eraseDups, List.mem_map,
    List.mem_filter, beq_iff_eq]
  constructor
  · rintro ⟨_, ⟨q, ⟨hq, hid⟩, rfl⟩, hmethod⟩
    exact ⟨q, hq, hid, hmethod⟩
  · rintro ⟨q, hq, hid, hmethod⟩
    exact ⟨q.owner, ⟨q, ⟨hq, hid⟩, rfl⟩, hmethod⟩

/-- A view is required when a marker cannot do without it. -/
theorem isRequired_ofDemands :
    (ofDemands demands id).isRequired = true
      ↔ ∃ q ∈ demands, q.id = id ∧ q.isOptional = false := by
  simp only [ofDemands, List.any_eq_true, List.mem_filter, beq_iff_eq, Bool.not_eq_true',
    and_assoc]

end

end ViewTarget

end BindingCompiler
