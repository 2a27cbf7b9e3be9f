import BindingCompiler.ClassPath.Basic

/-!
# `BindingCompiler.Kind`: binding kinds and what they describe

A binding kind names one marker of the vocabulary (`OnClick`,
`BindString`). Each kind belongs to one family:

* a *view* kind binds a field to a view looked up by id;
* a *resource* kind binds a field to a value fetched by an accessor of
  the resource table, with one or more variants by value type;
* a *listener* kind calls a method from a listener attached to a view.

A listener spec is what a declaration gives; a resolved listener is the
spec together with the methods of the class path that it stands for.
-/

set_option autoImplicit false

namespace BindingCompiler

/-- The name of a binding kind. -/
structure Kind where
  name : String
  deriving DecidableEq, Repr, Inhabited

/-- Kinds of the same name are the same kind. -/
theorem Kind.eq_of_name {k l : Kind} (h : k.name = l.name) : k = l := by
  cases k
  cases l
  exact congrArg mk h

/-- The three families of bindings. -/
inductive Family where
  | view
  | resource
  | listener
  deriving DecidableEq, Repr

namespace Family

/-- The word for a family. -/
def word : Family → String
  | .view => "view"
  | .resource => "resource"
  | .listener => "listener"

/-- Whether markers of the family are placed on fields, and not on methods. -/
def targetsFields : Family → Bool
  | .view | .resource => true
  | .listener => false

end Family

/-- How a resource is fetched: by the accessor, which yields a value of the type. -/
structure ResourceSpec where
  valueType : TypeName
  accessor : String
  deriving DecidableEq, Repr, Inhabited

/-- How a listener is attached to a view. -/
structure ListenerSpec where
  /-- The view type that declares the setter. -/
  owner : TypeName
  /-- The interface or abstract class that the generated listener is made from. -/
  listener : TypeName
  /-- The method that attaches the listener. -/
  setter : String
  /-- The method that detaches the listener; without one, the setter is given `null`. -/
  unsetter? : Option String := none
  /-- The listener method that calls the bound method; a listener with
  one abstract method need not name it. -/
  callback? : Option String := none
  deriving DecidableEq, Repr, Inhabited

namespace ListenerSpec

/-- The method called to detach. -/
def unsetter (spec : ListenerSpec) : String := spec.unsetter?.getD spec.setter

/-- Whether detaching gives `null` to the setter. -/
def unsetsWithNull (spec : ListenerSpec) : Bool := spec.unsetter == spec.setter

end ListenerSpec

/-- A listener spec with the methods it stands for. -/
structure ResolvedListener where
  spec : ListenerSpec
  /-- The owner's method that attaches the listener. -/
  setter : Method
  /-- The abstract method that calls the bound method. -/
  callback : Method
  /-- The other abstract methods, which do nothing. -/
  stubs : List Method
  /-- Whether the listener type is implemented, as an interface, or extended. -/
  isInterface : Bool
  deriving DecidableEq, Repr

/-- What a registered kind stands for. -/
inductive Descriptor where
  | view
  | resource (variants : List ResourceSpec)
  | listener (resolved : ResolvedListener)
  deriving DecidableEq, Repr

/-- The family of a descriptor. -/
def Descriptor.family : Descriptor → Family
  | .view => .view
  | .resource _ => .resource
  | .listener _ => .listener

end BindingCompiler
