import BindingCompiler.Marker.Validation
import BindingCompiler.Plan.Naming

/-!
# `BindingCompiler.Plan.Basic`: the layout of a binding class

A plan says everything that the binding of one target class has to do:
which views to look up, which of them must be there, which fields to
assign and which listeners to attach.
-/

set_option autoImplicit false

namespace BindingCompiler

/-- A member of the target that needs a view. -/
inductive ViewOwner where
  | field (name : String)
  | method (name : String)
  deriving DecidableEq, Repr

namespace ViewOwner

/-- An owner in words. -/
def describe : ViewOwner → String
  | .field name => s!"field '{name}'"
  | .method name => s!"method '{name}'"

/-- Whether the owner is a method, which listens to the view. -/
def isMethod : ViewOwner → Bool
  | .field _ => false
  | .method _ => true

end ViewOwner

/-- A view that is looked up by id. -/
structure ViewTarget where
  id : ResourceId
  /-- The field that keeps the view until it is unbound. -/
  field : String
  /-- The members that need the view, in the order of their markers. -/
  owners : List ViewOwner
  /-- Whether binding fails without the view. -/
  isRequired : Bool
  deriving DecidableEq, Repr

namespace ViewTarget

/-- Whether a listener is attached to the view. -/
def hasListeners (v : ViewTarget) : Bool := v.owners.any ViewOwner.isMethod

/-- The owners in one line. -/
def describeOwners (v : ViewTarget) : String :=
  String.intercalate ", " (v.owners.map ViewOwner.describe)

end ViewTarget

/-- A field of the target that is assigned when it is bound. -/
inductive FieldAssignment where
  | view (field : Field) (id : ResourceId)
  | resource (field : Field) (id : ResourceId) (spec : ResourceSpec)
  deriving DecidableEq, Repr

namespace FieldAssignment

/-- The assigned field. -/
def field : FieldAssignment → Field
  | .view f _ => f
  | .resource f _ _ => f

/-- Whether the value is a resource. -/
def isResource : FieldAssignment → Bool
  | .view _ _ => false
  | .resource _ _ _ => true

end FieldAssignment

/-- A listener class that calls one method of the target. -/
structure ListenerTarget where
  /-- The generated class. -/
  className : TypeName
  /-- The field that keeps the listener until it is detached. -/
  field : String
  kind : Kind
  method : Method
  ids : List ResourceId
  isOptional : Bool
  listener : ResolvedListener
  /-- For each argument of the method, the callback parameter it is given. -/
  arguments : List Nat
  returns : ReturnAdaptation
  deriving DecidableEq, Repr

/-- The layout of the binding class of one target. -/
structure Plan where
  target : TypeName
  binding : TypeName
  views : List ViewTarget
  fields : List FieldAssignment
  listeners : List ListenerTarget
  deriving DecidableEq, Repr

namespace Plan

/-- The view of an id. -/
def view? (p : Plan) (id : ResourceId) : Option ViewTarget := p.views.find? fun v => v.id == id

/-- The views that listeners are attached to. -/
def keptViews (p : Plan) : List ViewTarget := p.views.filter ViewTarget.hasListeners

/-- Whether the binding fetches resources. -/
def usesResources (p : Plan) : Bool := p.fields.any FieldAssignment.isResource

/-- Whether the binding does nothing. -/
def isEmpty (p : Plan) : Bool := p.views.isEmpty && p.fields.isEmpty && p.listeners.isEmpty

end Plan

end BindingCompiler
