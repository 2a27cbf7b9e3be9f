import BindingCompiler.Kind
import BindingCompiler.Marker.ResourceId

/-!
# `BindingCompiler.Marker.Basic`: marked members

A marker is a kind applied to a field or a method with the ids it is
about. A marked class lists its members with the markers on each.
-/

set_option autoImplicit false

namespace BindingCompiler

/-- A field as its class declares it. -/
structure Field where
  name : String
  type : TypeName
  visibility : Visibility := .everyone
  deriving DecidableEq, Repr, Inhabited

/-- What a marker can be placed on. -/
inductive Member where
  | field (field : Field)
  | method (method : Method)
  deriving DecidableEq, Repr

namespace Member

/-- The name of a member. -/
def name : Member → String
  | .field f => f.name
  | .method m => m.name

/-- The visibility of a member. -/
def visibility : Member → Visibility
  | .field f => f.visibility
  | .method m => m.visibility

/-- Whether a member is a field. -/
def isField : Member → Bool
  | .field _ => true
  | .method _ => false

/-- A member in words. -/
def describe : Member → String
  | .field f => s!"field '{f.name}'"
  | .method m => s!"method '{m.name}'"

end Member

/-- A kind applied to a member. -/
structure Marker where
  kind : Kind
  ids : List ResourceId
  /-- Whether missing views are tolerated. -/
  isOptional : Bool := false
  deriving DecidableEq, Repr, Inhabited

/-- A member with every marker on it. -/
structure MarkedMember where
  member : Member
  markers : List Marker
  deriving DecidableEq, Repr

/-- A class with its marked members. -/
structure MarkedClass where
  name : TypeName
  members : List MarkedMember := []
  deriving DecidableEq, Repr

namespace MarkedClass

/-- The number of markers on all members. -/
def markerCount (c : MarkedClass) : Nat := (c.members.flatMap MarkedMember.markers).length

/-- Each marker with the member it is placed on, member by member. -/
def placements (c : MarkedClass) : List (Member × Marker) :=
  c.members.flatMap fun m => m.markers.map fun marker => (m.member, marker)

end MarkedClass

end BindingCompiler
