import BindingCompiler.Declaration.Reader

/-!
# `BindingCompiler.Declaration.Basic`: declarations and the manifest

A declaration that can be read is added at the end of its list; only a
second class of the same name is turned away.

* `size_add`: a manifest that takes a declaration has one entry more.
-/

set_option autoImplicit false

namespace BindingCompiler

/-- A declaration. -/
inductive Declaration where
  | type (c : ClassType)
  | view (kind : Kind)
  | resource (decl : ResourceDecl)
  | listener (decl : ListenerDecl)
  | markedClass (c : MarkedClass)
  deriving DecidableEq, Repr

/-- Reads a declaration from a table. -/
def Form.read (s : Script.Store) (ref : Script.TableRef) : Form → Except ReadError Declaration
  | .type => return .type (← Declaration.typeOf s ref)
  | .view => return .view (← Declaration.viewKindOf s ref)
  | .resource => return .resource (← Declaration.resourceOf s ref)
  | .listener => return .listener (← Declaration.listenerOf s ref)
  | .markedClass => return .markedClass (← Declaration.classOf s ref)

namespace Manifest

/-- Adds a declaration. -/
def add (m : Manifest) : Declaration → Except DeclarationError Manifest
  | .type c => .ok { m with types := m.types ++ [c] }
  | .view kind => .ok { m with views := m.views ++ [kind] }
  | .resource decl => .ok { m with resources := m.resources ++ [decl] }
  | .listener decl => .ok { m with listeners := m.listeners ++ [decl] }
  | .markedClass c =>
    if (m.class? c.name).isSome then .error (.duplicateClass c.name)
    else .ok { m with classes := m.classes ++ [c] }

/-- Takes a declaration of a form, given as a value of a script. -/
def declare (m : Manifest) (s : Script.Store) (form : Form) (v : Script.Value) :
    Except DeclarationError Manifest :=
  match v with
  | .table ref =>
    match form.read s ref with
    | .ok d => m.add d
    | .error cause => .error (.malformed cause)
  | v => .error (.argument v.typeWord)

/-- The number of entries of all lists. -/
def size (m : Manifest) : Nat :=
  m.types.length + m.views.length + m.resources.length + m.listeners.length + m.classes.length

/-- A manifest that takes a declaration has one entry more. -/
theorem size_add {m n : Manifest} {d : Declaration} (h : m.add d = .ok n) :
    n.size = m.size + 1 := by
  cases d with
  | markedClass c =>
      simp only [add] at h
      split at h
      · exact absurd h (by simp)
      · simp only [Except.ok.injEq] at h
        subst h
        simp only [size, List.length_append, List.length_singleton]
        omega
  | _ =>
      simp only [add, Except.ok.injEq] at h
      subst h
      simp only [size, List.length_append, List.length_singleton]
      omega

end Manifest

end BindingCompiler
