/-!
# `BindingCompiler.Text.Split`: cutting a text at a separator

A text is a list of characters or of bytes. `segments` cuts it at every
separator, `splitLast?` at the last one only.

* `joinWith_segments`: the segments with the separators between them
  are the text.
* `segments_joinWith`: parts without separators are the segments of
  what they make.
* `segments_append_cons`: at a separator, the segments of the two sides meet.
* `segments_flatMap_concat`: parts that are each ended by a separator.
* `splitLast?_eq_some_iff`: the last cut is the one after which no
  separator follows.
* `splitLast?_eq_none_iff`: without a separator there is no cut.
-/

set_option autoImplicit false

namespace BindingCompiler.Text

variable {α : Type} [DecidableEq α]

/-- The parts of a text between the separators, at least one. -/
def segments (separator : α) : List α → List (List α)
  | [] => [[]]
  | c :: rest =>
    if c = separator then [] :: segments separator rest
    else
      match segments separator rest with
      | [] => [[c]]
      | first :: more => (c :: first) :: more

/-- The parts put together again, a separator between each two. -/
def joinWith (separator : α) : List (List α) → List α
  | [] => []
  | [part] => part
  | part :: more => part ++ separator :: joinWith separator more

/-- What stands before and after the last separator. -/
def splitLast? (separator : α) : List α → Option (List α × List α)
  | [] => none
  | c :: rest =>
    match splitLast? separator rest with
    | some (before, after) => some (c :: before, after)
    | none => if c = separator then some ([], rest) else none

/-! ### What the cuts leave -/

/-- A text has at least one segment. -/
theorem segments_ne_nil (separator : α) (cs : List α) : segments separator cs ≠ [] := by
  cases cs with
  | nil => simp [segments]
  | cons c rest =>
      unfold segments
      split
      · simp
      · split <;> simp

/-- Cutting and joining give the text back. -/
theorem joinWith_segments (separator : α) (cs : List α) :
    joinWith separator (segments separator cs) = cs := by
  induction cs with
  | nil => rfl
  | cons c rest ih =>
      unfold segments
      split
      · rename_i h
        cases hseg : segments separator rest with
        | nil => exact absurd hseg (segments_ne_nil _ _)
        | cons first more =>
            rw [hseg] at ih
            simp only [joinWith, List.nil_append]
            rw [ih, h]
      · cases hseg : segments separator rest with
        | nil => exact absurd hseg (segments_ne_nil _ _)
        | cons first more =>
            rw [hseg] at ih
            cases more with
            | nil => simp only [joinWith] at ih ⊢; rw [ih]
            | cons second others =>
                simp only [joinWith, List.cons_append] at ih ⊢
                rw [ih]

/-- A text without separators is a single segment. -/
theorem segments_of_not_mem {separator : α} {cs : List α} (h : separator ∉ cs) :
    segments separator cs = [cs] := by
  induction cs with
  | nil => rfl
  | cons c rest ih =>
      simp only [List.mem_cons, not_or] at h
      rw [segments, if_neg (Ne.symm h.1), ih h.2]

/-- A text is cut at a separator into the segments before and those after it. -/
theorem segments_append_cons (separator : α) (before after : List α) :
    segments separator (before ++ separator :: after)
      = segments separator before ++ segments separator after := by
  induction before with
  | nil => simp [segments]
  | cons c rest ih =>
      rw [List.cons_append, segments, segments, ih]
      split
      · rfl
      · cases hrest : segments separator rest with
        | nil => exact absurd hrest (segments_ne_nil _ _)
        | cons first more => rfl

/-- Parts without separators that are put together are cut apart again. -/
theorem segments_joinWith {separator : α} {parts : List (List α)} (hne : parts ≠ [])
    (h : ∀ part ∈ parts, separator ∉ part) :
    segments separator (joinWith separator parts) = parts := by
  induction parts with
  | nil => exact absurd rfl hne
  | cons part more ih =>
      have hpart := segments_of_not_mem (h part List.mem_cons_self)
      cases more with
      | nil => exact hpart
      | cons second others =>
          have hmore := ih (List.cons_ne_nil second others)
            fun p hp => h p (List.mem_cons_of_mem part hp)
          rw [joinWith, segments_append_cons, hpart, hmore]
          · rfl
          · exact List.cons_ne_nil second others

/-- Parts that are each ended by a separator are cut there, and in themselves. Behind the last
separator there is an empty segment. -/
theorem segments_flatMap_concat (separator : α) (parts : List (List α)) :
    segments separator (parts.flatMap fun part => part ++ [separator])
      = parts.flatMap (segments separator) ++ [[]] := by
  induction parts with
  | nil => rfl
  | cons part parts ih =>
      rw [List.flatMap_cons, List.append_assoc, List.singleton_append, segments_append_cons, ih,
        List.flatMap_cons, List.append_assoc]

/-- What has no separator in it and stands in front of a text belongs to the first segment. -/
theorem segments_append_of_front {separator : α} {front : List α} (h : separator ∉ front)
    (cs : List α) :
    segments separator (front ++ cs) = (segments separator cs).modifyHead (front ++ ·) := by
  induction front with
  | nil => cases hcs : segments separator cs <;> simp [hcs]
  | cons c front ih =>
      simp only [List.mem_cons, not_or] at h
      rw [List.cons_append, segments, if_neg (Ne.symm h.1), ih h.2]
      cases hcs : segments separator cs with
      | nil => exact absurd hcs (segments_ne_nil _ _)
      | cons first more => rfl

/-- Segments have no separators, and nothing that the text does not have. -/
theorem mem_of_mem_segments {separator c : α} {cs part : List α} (h : part ∈ segments separator cs)
    (hc : c ∈ part) : c ≠ separator ∧ c ∈ cs := by
  induction cs generalizing part with
  | nil =>
      rw [segments, List.mem_singleton] at h
      exact absurd (h ▸ hc) (by simp)
  | cons d rest ih =>
      unfold segments at h
      split at h
      · rcases List.mem_cons.mp h with rfl | h
        · exact absurd hc (by simp)
        · exact ⟨(ih h hc).1, List.mem_cons_of_mem _ (ih h hc).2⟩
      · rename_i hd
        cases hrest : segments separator rest with
        | nil => exact absurd hrest (segments_ne_nil _ _)
        | cons first more =>
            rw [hrest] at h ih
            rcases List.mem_cons.mp h with rfl | h
            · rcases List.mem_cons.mp hc with rfl | hc
              · exact ⟨hd, List.mem_cons_self⟩
              · obtain ⟨hne, hmem⟩ := ih List.mem_cons_self hc
                exact ⟨hne, List.mem_cons_of_mem _ hmem⟩
            · obtain ⟨hne, hmem⟩ := ih (List.mem_cons_of_mem _ h) hc
              exact ⟨hne, List.mem_cons_of_mem _ hmem⟩

/-- What a text has besides separators, one of its segments has. -/
theorem exists_mem_segments (separator : α) {c : α} {cs : List α} (hc : c ∈ cs)
    (hne : c ≠ separator) : ∃ part ∈ segments separator cs, c ∈ part := by
  induction cs with
  | nil => exact absurd hc (by simp)
  | cons d rest ih =>
      cases hrest : segments separator rest with
      | nil => exact absurd hrest (segments_ne_nil _ _)
      | cons first more =>
          rw [hrest] at ih
          rw [segments, hrest]
          rcases List.mem_cons.mp hc with rfl | hc
          · rw [if_neg hne]
            exact ⟨c :: first, List.mem_cons_self, List.mem_cons_self⟩
          · obtain ⟨part, hpart, hmem⟩ := ih hc
            split
            · exact ⟨part, List.mem_cons_of_mem _ hpart, hmem⟩
            · rcases List.mem_cons.mp hpart with rfl | hpart
              · exact ⟨d :: part, List.mem_cons_self, List.mem_cons_of_mem _ hmem⟩
              · exact ⟨part, List.mem_cons_of_mem _ hpart, hmem⟩

/-- There is no cut exactly when there is no separator. -/
theorem splitLast?_eq_none_iff (separator : α) (cs : List α) :
    splitLast? separator cs = none ↔ separator ∉ cs := by
  induction cs with
  | nil => simp [splitLast?]
  | cons c rest ih =>
      unfold splitLast?
      cases h : splitLast? separator rest with
      | some p =>
          have hmem : separator ∈ rest := by
            refine Decidable.of_not_not fun hn => ?_
            rw [ih.mpr hn] at h
            exact absurd h (by simp)
          simp [hmem]
      | none =>
          have hn : separator ∉ rest := ih.mp h
          by_cases hc : c = separator
          · simp [hc]
          · simp [hc, hn, Ne.symm hc]

/-- The cut is at the last separator. -/
theorem splitLast?_eq_some_iff (separator : α) (cs before after : List α) :
    splitLast? separator cs = some (before, after)
      ↔ cs = before ++ separator :: after ∧ separator ∉ after := by
  induction cs generalizing before with
  | nil => simp [splitLast?]
  | cons c rest ih =>
      unfold splitLast?
      cases h : splitLast? separator rest with
      | some p =>
          obtain ⟨b, a⟩ := p
          constructor
          · intro heq
            simp only [Option.some.injEq, Prod.mk.injEq] at heq
            obtain ⟨rfl, rfl⟩ := heq
            obtain ⟨hr, ha⟩ := (ih b).mp h
            exact ⟨by rw [hr]; rfl, ha⟩
          · rintro ⟨heq, ha⟩
            cases before with
            | nil =>
                simp only [List.nil_append, List.cons.injEq] at heq
                have hn := (splitLast?_eq_none_iff separator rest).mpr (heq.2 ▸ ha)
                rw [hn] at h
                exact absurd h (by simp)
            | cons d ds =>
                simp only [List.cons_append, List.cons.injEq] at heq
                have := (ih ds).mpr ⟨heq.2, ha⟩
                rw [this] at h
                simp only [Option.some.injEq, Prod.mk.injEq] at h ⊢
                exact ⟨by rw [heq.1, h.1], h.2.symm⟩
      | none =>
          have hn := (splitLast?_eq_none_iff separator rest).mp h
          constructor
          · intro heq
            by_cases hc : c = separator
            · simp only [hc, if_true, Option.some.injEq, Prod.mk.injEq] at heq
              obtain ⟨rfl, rfl⟩ := heq
              exact ⟨by rw [hc]; rfl, hn⟩
            · simp [hc] at heq
          · rintro ⟨heq, ha⟩
            cases before with
            | nil =>
                simp only [List.nil_append, List.cons.injEq] at heq
                simp [heq.1, heq.2]
            | cons d ds =>
                simp only [List.cons_append, List.cons.injEq] at heq
                exact absurd (by rw [heq.2]; simp) hn

end BindingCompiler.Text
