import BindingCompiler.Marker.Basic
import BindingCompiler.Registry.Builtin

/-!
# `BindingCompiler.Manifest.Basic`: what a configuration declares

A manifest lists the declared types, kinds and marked classes, each in
the order of the file. Types are declared before kinds are registered,
and listener kinds last, so a kind may be declared before the types
that it names.
-/

set_option autoImplicit false

namespace BindingCompiler

/-- A declared resource kind. -/
structure ResourceDecl where
  kind : Kind
  variants : List ResourceSpec
  deriving DecidableEq, Repr

/-- A declared listener kind. -/
structure ListenerDecl where
  kind : Kind
  spec : ListenerSpec
  deriving DecidableEq, Repr

/-- The declarations of a configuration. -/
structure Manifest where
  types : List ClassType := []
  views : List Kind := []
  resources : List ResourceDecl := []
  listeners : List ListenerDecl := []
  classes : List MarkedClass := []
  deriving DecidableEq, Repr, Inhabited

namespace Manifest

/-- The manifest without declarations. -/
def empty : Manifest := {}

/-- The marked class of a name. -/
def class? (m : Manifest) (name : TypeName) : Option MarkedClass :=
  m.classes.find? fun c => c.name == name

/-- The number of declared kinds. -/
def kindCount (m : Manifest) : Nat := m.views.length + m.resources.length + m.listeners.length

/-- Whether nothing is declared. -/
def isEmpty (m : Manifest) : Bool :=
  m.types.isEmpty && m.kindCount == 0 && m.classes.isEmpty

/-- Declares the types and registers the kinds of a manifest over a registry. -/
def register (m : Manifest) (base : Registry) : Except RegistryError Registry := do
  let r := m.types.foldl Registry.declare base
  let r := m.views.foldl Registry.registerView r
  let r ← r.registerResources (m.resources.map fun d => (d.kind, d.variants))
  r.registerListeners (m.listeners.map fun d => (d.kind, d.spec))

/-- The registry of a configuration: its declarations over the built-in kinds. -/
def registry (m : Manifest) : Except RegistryError Registry := do
  m.register (← Registry.builtin)

end Manifest

end BindingCompiler
