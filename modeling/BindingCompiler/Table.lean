/-!
# `BindingCompiler.Table`: entries in the order of their names

A table keeps entries sorted by a name that each entry carries, one
entry a name. Inserting an entry replaces the one of the same name.

* `get?_insert`: a lookup after an insertion finds the new entry under
  its own name and the old entries under all others.
* `ext_get?`: two tables that answer every lookup alike are equal.
* `mem_insert`: what a table holds after an insertion.
-/

set_option autoImplicit false

namespace BindingCompiler

/-- Entries in strictly ascending order of their names. -/
structure Table (α : Type) (name : α → String) where
  /-- The entries, in order. -/
  entries : List α
  /-- Names ascend, so no two entries share one. -/
  ascending : entries.Pairwise fun a b => name a < name b

namespace Table

variable {α : Type} {name : α → String}

instance : EmptyCollection (Table α name) := ⟨⟨[], List.Pairwise.nil⟩⟩

instance : Inhabited (Table α name) := ⟨∅⟩

instance : Membership α (Table α name) := ⟨fun t a => a ∈ t.entries⟩

/-- The entry called `n`. -/
def get? (t : Table α name) (n : String) : Option α := t.entries.find? fun a => name a == n

/-- Whether there is an entry called `n`. -/
def contains (t : Table α name) (n : String) : Bool := (t.get? n).isSome

/-- The number of entries. -/
def size (t : Table α name) : Nat := t.entries.length

/-- The entries in order. -/
def toList (t : Table α name) : List α := t.entries

/-- Puts `a` into its place in a sorted list, over an entry of the same name. -/
def place (name : α → String) (a : α) : List α → List α
  | [] => [a]
  | b :: rest =>
    if name a < name b then a :: b :: rest
    else if name a = name b then a :: rest
    else b :: place name a rest

/-! ### Placing an entry -/

/-- Of two names that are neither equal nor in one order, the other order holds. -/
theorem lt_of_not_lt_of_ne {a b : String} (hlt : ¬ a < b) (hne : a ≠ b) : b < a :=
  String.not_le.mp fun hle => hne (String.le_antisymm hle (String.not_lt.mp hlt))

/-- What a list holds once `a` is placed in it. -/
theorem mem_place_iff {a x : α} {l : List α} (h : l.Pairwise fun a b => name a < name b) :
    x ∈ place name a l ↔ x = a ∨ x ∈ l ∧ name x ≠ name a := by
  induction l with
  | nil => simp [place]
  | cons b rest ih =>
      obtain ⟨hb, hrest⟩ := List.pairwise_cons.mp h
      unfold place
      split
      · rename_i hlt
        have hother : ∀ y ∈ b :: rest, name y ≠ name a := by
          intro y hy heq
          rcases List.mem_cons.mp hy with rfl | hy
          · exact String.lt_irrefl _ (heq ▸ hlt)
          · exact String.lt_irrefl _ (String.lt_trans (heq ▸ hlt) (hb y hy))
        simp only [List.mem_cons]
        constructor
        · rintro (rfl | hx)
          · exact .inl rfl
          · exact .inr ⟨hx, hother x (List.mem_cons.mpr hx)⟩
        · rintro (rfl | ⟨hx, -⟩)
          · exact .inl rfl
          · exact .inr hx
      · split
        · rename_i hlt heq
          have hother : ∀ y ∈ rest, name y ≠ name a := by
            intro y hy hya
            exact String.lt_irrefl _ (by have := hb y hy; rwa [hya, heq] at this)
          simp only [List.mem_cons]
          constructor
          · rintro (rfl | hx)
            · exact .inl rfl
            · exact .inr ⟨.inr hx, hother x hx⟩
          · rintro (rfl | ⟨rfl | hx, hne⟩)
            · exact .inl rfl
            · exact absurd heq.symm hne
            · exact .inr hx
        · rename_i hlt hne
          simp only [List.mem_cons, ih hrest]
          constructor
          · rintro (rfl | rfl | ⟨hx, hxa⟩)
            · exact .inr ⟨.inl rfl, Ne.symm hne⟩
            · exact .inl rfl
            · exact .inr ⟨.inr hx, hxa⟩
          · rintro (rfl | ⟨rfl | hx, hxa⟩)
            · exact .inr (.inl rfl)
            · exact .inl rfl
            · exact .inr (.inr ⟨hx, hxa⟩)

/-- Placing an entry keeps the order. -/
theorem pairwise_place (a : α) {l : List α} (h : l.Pairwise fun a b => name a < name b) :
    (place name a l).Pairwise fun a b => name a < name b := by
  induction l with
  | nil => simp [place]
  | cons b rest ih =>
      obtain ⟨hb, hrest⟩ := List.pairwise_cons.mp h
      unfold place
      split
      · rename_i hlt
        refine List.pairwise_cons.mpr ⟨fun y hy => ?_, h⟩
        rcases List.mem_cons.mp hy with rfl | hy
        · exact hlt
        · exact String.lt_trans hlt (hb y hy)
      · split
        · rename_i hlt heq
          exact List.pairwise_cons.mpr ⟨fun y hy => heq ▸ hb y hy, hrest⟩
        · rename_i hlt hne
          refine List.pairwise_cons.mpr ⟨fun y hy => ?_, ih hrest⟩
          rcases (mem_place_iff hrest).mp hy with rfl | ⟨hy, -⟩
          · exact lt_of_not_lt_of_ne hlt hne
          · exact hb y hy

/-- Adds an entry, over one of the same name. -/
def insert (t : Table α name) (a : α) : Table α name :=
  ⟨place name a t.entries, pairwise_place a t.ascending⟩

/-- Adds the entries of a list, the later ones over the earlier ones. -/
def insertAll (t : Table α name) (l : List α) : Table α name := l.foldl insert t

/-! ### Lookups -/

/-- A table holds, after an insertion, the new entry and those of other names. -/
theorem mem_insert {t : Table α name} {a x : α} :
    x ∈ (t.insert a).entries ↔ x = a ∨ x ∈ t.entries ∧ name x ≠ name a :=
  mem_place_iff t.ascending

/-- Two entries of one name are the same entry. -/
theorem eq_of_mem_of_name_eq {t : Table α name} {a b : α} (ha : a ∈ t.entries)
    (hb : b ∈ t.entries) (h : name a = name b) : a = b := by
  have hp := t.ascending
  revert ha hb hp
  generalize t.entries = l
  intro ha hb hp
  induction l with
  | nil => exact absurd ha (by simp)
  | cons c rest ih =>
      obtain ⟨hc, hrest⟩ := List.pairwise_cons.mp hp
      rcases List.mem_cons.mp ha with hac | har <;> rcases List.mem_cons.mp hb with hbc | hbr
      · rw [hac, hbc]
      · exact absurd (hc b hbr) (by rw [← hac, h]; exact String.lt_irrefl _)
      · exact absurd (hc a har) (by rw [← hbc, h]; exact String.lt_irrefl _)
      · exact ih har hbr hrest

/-- A lookup answers with the entry of that name. -/
theorem get?_eq_some_iff {t : Table α name} {n : String} {a : α} :
    t.get? n = some a ↔ a ∈ t.entries ∧ name a = n := by
  constructor
  · intro h
    exact ⟨List.mem_of_find?_eq_some h, by simpa using List.find?_some h⟩
  · rintro ⟨ha, rfl⟩
    cases h : t.get? (name a) with
    | none => exact absurd (List.find?_eq_none.mp h a ha) (by simp)
    | some b =>
        have hb : b ∈ t.entries ∧ name b = name a :=
          ⟨List.mem_of_find?_eq_some h, by simpa using List.find?_some h⟩
        rw [eq_of_mem_of_name_eq hb.1 ha hb.2]

/-- A lookup after an insertion. -/
theorem get?_insert (t : Table α name) (a : α) (n : String) :
    (t.insert a).get? n = if name a = n then some a else t.get? n := by
  by_cases h : name a = n
  · rw [if_pos h, get?_eq_some_iff]
    exact ⟨mem_insert.mpr (.inl rfl), h⟩
  · rw [if_neg h]
    refine Option.ext fun x => ?_
    rw [get?_eq_some_iff, get?_eq_some_iff, mem_insert]
    constructor
    · rintro ⟨rfl | ⟨hx, -⟩, hn⟩
      · exact absurd hn h
      · exact ⟨hx, hn⟩
    · rintro ⟨hx, hn⟩
      exact ⟨.inr ⟨hx, fun he => h (he ▸ hn)⟩, hn⟩

/-- A table is determined by its entries. -/
theorem ext_entries {t u : Table α name} (h : t.entries = u.entries) : t = u := by
  cases t
  cases u
  cases h
  rfl

/-- Two sorted lists with the same members are the same list. -/
theorem eq_of_pairwise_of_mem_iff {l m : List α} (hl : l.Pairwise fun a b => name a < name b)
    (hm : m.Pairwise fun a b => name a < name b) (h : ∀ x, x ∈ l ↔ x ∈ m) : l = m := by
  induction l generalizing m with
  | nil =>
      cases m with
      | nil => rfl
      | cons b rest => exact absurd ((h b).mpr (by simp)) (by simp)
  | cons a l ih =>
      cases m with
      | nil => exact absurd ((h a).mp (by simp)) (by simp)
      | cons b m =>
          obtain ⟨ha, hl'⟩ := List.pairwise_cons.mp hl
          obtain ⟨hb, hm'⟩ := List.pairwise_cons.mp hm
          have hab : a = b := by
            rcases List.mem_cons.mp ((h a).mp (by simp)) with heq | hin
            · exact heq
            · rcases List.mem_cons.mp ((h b).mpr (by simp)) with heq | hin'
              · exact heq.symm
              · exact absurd (ha b hin') (String.lt_asymm (hb a hin))
          subst hab
          congr 1
          refine ih hl' hm' fun x => ?_
          have hx := h x
          simp only [List.mem_cons] at hx
          constructor
          · intro hin
            rcases hx.mp (.inr hin) with rfl | hin'
            · exact absurd (ha x hin) (String.lt_irrefl _)
            · exact hin'
          · intro hin
            rcases hx.mpr (.inr hin) with rfl | hin'
            · exact absurd (hb x hin) (String.lt_irrefl _)
            · exact hin'

/-- Two tables that answer every lookup alike are equal. -/
theorem ext_get? {t u : Table α name} (h : ∀ n, t.get? n = u.get? n) : t = u := by
  refine ext_entries (eq_of_pairwise_of_mem_iff t.ascending u.ascending fun x => ?_)
  constructor
  · intro hx
    exact (get?_eq_some_iff.mp ((h (name x)) ▸ get?_eq_some_iff.mpr ⟨hx, rfl⟩)).1
  · intro hx
    exact (get?_eq_some_iff.mp ((h (name x)).symm ▸ get?_eq_some_iff.mpr ⟨hx, rfl⟩)).1

/-- Entries of different names can be inserted in either order. -/
theorem insert_comm (t : Table α name) {a b : α} (h : name a ≠ name b) :
    (t.insert a).insert b = (t.insert b).insert a := by
  refine ext_get? fun n => ?_
  simp only [get?_insert]
  by_cases ha : name a = n
  · have hb : name b ≠ n := fun hb => h (ha.trans hb.symm)
    rw [if_neg hb, if_pos ha, if_pos ha]
  · rw [if_neg ha, if_neg ha]

end Table

end BindingCompiler
