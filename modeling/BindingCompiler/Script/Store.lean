import BindingCompiler.Script.Value

/-!
# `BindingCompiler.Script.Store`: the tables of a running script

A store holds every table that a script has made. A table maps keys to
values that are not nil; writing nil takes a key out.

* `read_write_self`, `read_write_of_ne`: a key reads what was written
  last under it, and writing changes no other key.
-/

set_option autoImplicit false

namespace BindingCompiler.Script

/-- The entries of a table, in no order that a script can see. -/
abbrev Entries := List (Value × Value)

namespace Entries

/-- The value under a key. -/
def get (entries : Entries) (key : Value) : Value :=
  match entries with
  | [] => .nil
  | (k, v) :: rest => if k = key then v else get rest key

/-- The entries without a key. -/
def erase (entries : Entries) (key : Value) : Entries :=
  entries.filter fun entry => entry.1 != key

/-- The entries with a value under a key. -/
def put (entries : Entries) (key value : Value) : Entries :=
  if value = .nil then entries.erase key else (key, value) :: entries.erase key

/-- An erased key has no value. -/
theorem get_erase_self (entries : Entries) (key : Value) :
    Entries.get (entries.erase key) key = .nil := by
  induction entries with
  | nil => rfl
  | cons entry rest ih =>
      obtain ⟨k, v⟩ := entry
      by_cases h : k = key
      · simpa [erase, h] using ih
      · simpa [erase, get, h] using ih

/-- Erasing a key leaves the others. -/
theorem get_erase_of_ne {key other : Value} (h : key ≠ other) (entries : Entries) :
    Entries.get (entries.erase key) other = entries.get other := by
  induction entries with
  | nil => rfl
  | cons entry rest ih =>
      obtain ⟨k, v⟩ := entry
      by_cases hk : k = key
      · subst hk
        simpa [erase, get, h] using ih
      · by_cases ho : k = other
        · simp [erase, get, ho, Ne.symm h]
        · simpa [erase, get, hk, ho] using ih

/-- A key has the value put under it. -/
theorem get_put_self (entries : Entries) (key value : Value) :
    Entries.get (entries.put key value) key = value := by
  unfold put
  split
  · rename_i h
    rw [get_erase_self, h]
  · simp [get]

/-- Putting a value under a key leaves the others. -/
theorem get_put_of_ne {key other : Value} (h : key ≠ other) (entries : Entries)
    (value : Value) : Entries.get (entries.put key value) other = entries.get other := by
  unfold put
  split
  · exact get_erase_of_ne h entries
  · simp only [get, if_neg h]
    exact get_erase_of_ne h entries

end Entries

/-- The tables of a script. -/
structure Store where
  tables : Array Entries
  deriving Inhabited

namespace Store

/-- The store without tables. -/
def empty : Store := ⟨#[]⟩

/-- The entries of a table; a place that holds none has no entries. -/
def entries (s : Store) (ref : TableRef) : Entries := s.tables.getD ref.index []

/-- A new table with the entries. -/
def allocate (s : Store) (entries : Entries) : TableRef × Store :=
  (⟨s.tables.size⟩, ⟨s.tables.push entries⟩)

/-- The value under a key of a table. -/
def read (s : Store) (ref : TableRef) (key : Value) : Value := (s.entries ref).get key.key

/-- Writes a value under a key of a table. -/
def write (s : Store) (ref : TableRef) (key value : Value) : Store :=
  ⟨s.tables.modify ref.index fun entries => entries.put key.key value⟩

/-- The value under a name. -/
def field (s : Store) (ref : TableRef) (name : String) : Value := s.read ref (.ofText name)

/-- The value under a position. -/
def item (s : Store) (ref : TableRef) (position : Nat) : Value :=
  s.read ref (.integer (Int64.ofNat position))

/-- The items of a list: what is under 1, 2, … up to the first nil. -/
def list (s : Store) (ref : TableRef) : List Value :=
  ((List.range (s.entries ref).length).map fun i => s.item ref (i + 1)).takeWhile
    fun v => v != .nil

/-- A key reads what was written last under it. -/
theorem read_write_self (s : Store) (ref : TableRef) (key value : Value)
    (h : ref.index < s.tables.size) : (s.write ref key value).read ref key = value := by
  unfold read entries write
  rw [Array.getD_eq_getD_getElem?, Array.getElem?_modify]
  simp only [if_true, Array.getElem?_eq_getElem h, Option.map_some, Option.getD_some]
  exact Entries.get_put_self _ _ _

/-- Writing under a key changes no other key. -/
theorem read_write_of_ne (s : Store) {ref other : TableRef} {key name : Value}
    (h : ref ≠ other ∨ key.key ≠ name.key) (value : Value) :
    (s.write ref key value).read other name = s.read other name := by
  unfold read entries write
  rw [Array.getD_eq_getD_getElem?, Array.getElem?_modify, Array.getD_eq_getD_getElem?]
  by_cases hr : ref.index = other.index
  · have hk : key.key ≠ name.key := by
      refine h.resolve_left fun hne => hne ?_
      cases ref
      cases other
      exact congrArg TableRef.mk hr
    rw [if_pos hr]
    cases s.tables[other.index]? with
    | none => rfl
    | some entries => exact Entries.get_put_of_ne hk entries value
  · rw [if_neg hr]

end Store

end BindingCompiler.Script
