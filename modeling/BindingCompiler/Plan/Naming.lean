import BindingCompiler.Marker.Basic

/-!
# `BindingCompiler.Plan.Naming`: names of generated classes and fields

A binding class is nested in its target by name, its listener classes
are numbered inside it, and the fields it adds carry the id or the
method they are for.

* `count_next`: handing out a name for one class moves its own counter
  on and leaves those of all other classes alone.
-/

set_option autoImplicit false

namespace BindingCompiler

/-- The class that maps every target to its binding. -/
def factoryType : TypeName := ⟨"io.sento.SentoFactory"⟩

/-- The binding class of a target. -/
def bindingType (target : TypeName) : TypeName := target.nested "SentoBinding"

/-- The field that keeps the view of an id. -/
def viewField (id : ResourceId) : String := "sento$view$id_" ++ id.suffix

/-- The field that keeps the listener of a kind for a method. -/
def listenerField (method : String) (kind : Kind) : String :=
  "sento$listener$" ++ method ++ "$" ++ kind.name

/-- How many numbered names a class has handed out. -/
structure Counter where
  outer : TypeName
  count : Nat
  deriving DecidableEq, Repr

/-- The numbered names handed out so far, class by class. -/
structure Numbering where
  counters : Table Counter (fun c => c.outer.text)
  deriving Inhabited

namespace Numbering

/-- No name handed out yet. -/
def empty : Numbering := ⟨∅⟩

/-- The number of names handed out for a class. -/
def count (n : Numbering) (outer : TypeName) : Nat :=
  match n.counters.get? outer.text with
  | some c => c.count
  | none => 0

/-- The next numbered name inside a class, counting from zero. -/
def next (n : Numbering) (outer : TypeName) : TypeName × Numbering :=
  (outer.nested (toString (n.count outer)), ⟨n.counters.insert ⟨outer, n.count outer + 1⟩⟩)

/-- Handing out a name moves the counter of its own class only. -/
theorem count_next (n : Numbering) (outer other : TypeName) :
    (n.next outer).2.count other = if outer = other then n.count outer + 1 else n.count other := by
  unfold next count
  simp only [Table.get?_insert]
  by_cases h : outer = other
  · simp [h]
  · have htext : outer.text ≠ other.text := fun he => h (by cases outer; cases other; simp_all)
    simp [h, htext]

end Numbering

end BindingCompiler
