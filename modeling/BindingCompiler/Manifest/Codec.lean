import BindingCompiler.Json.Basic
import BindingCompiler.Manifest.Basic
import BindingCompiler.TypeName.Parser

/-!
# `BindingCompiler.Manifest.Codec`: manifests as JSON

Every part of a manifest has a JSON form, written by `toJson` and read
by `ofJson?`. Names of types are checked as they are read. Fields with
a default may be missing when a value is read; all of them are written,
except the two optional names of a listener spec.
-/

set_option autoImplicit false

namespace BindingCompiler

/-! ### Names and words -/

/-- A type name as JSON. -/
def TypeName.toJson (t : TypeName) : Json := .string t.text

/-- Reads a type name. -/
def TypeName.ofJson? (j : Json) : Option TypeName :=
  match j with
  | .string s =>
    match TypeName.parse s with
    | .ok t => some t
    | .error _ => none
  | _ => none

/-- A kind as JSON. -/
def Kind.toJson (k : Kind) : Json := .string k.name

/-- Reads a kind. -/
def Kind.ofJson? (j : Json) : Option Kind := j.asString?.map Kind.mk

/-- A visibility as JSON. -/
def Visibility.toJson (v : Visibility) : Json := .string v.word

/-- Reads a visibility: its word, or an object with the word as its only
key, which has to hold nothing. -/
def Visibility.ofJsonWith? (holdsNothing : Json → Bool) : Json → Option Visibility
  | .string s => Visibility.ofWord? s
  | .object [(key, content)] => if holdsNothing content then Visibility.ofWord? key else none
  | _ => none

/-- Reads a visibility; `null` is nothing. -/
def Visibility.ofJson? : Json → Option Visibility := Visibility.ofJsonWith? Json.isNull

/-- Reads the visibility of a member; an object without members is nothing, too. -/
def Visibility.ofMemberJson? : Json → Option Visibility :=
  Visibility.ofJsonWith? fun j => j.isNull || j.isEmptyObject

/-- An id as JSON, a signed number. -/
def ResourceId.toJson (id : ResourceId) : Json := .int id.signed

/-- Reads an id. -/
def ResourceId.ofJson? (j : Json) : Option ResourceId := j.asInt?.bind ResourceId.ofSigned?

/-! ### Types -/

/-- A method as JSON. -/
def Method.toJson (m : Method) : Json :=
  .object
    [("name", .string m.name),
      ("args", .ofList TypeName.toJson m.parameters),
      ("returns", m.returns.toJson),
      ("is_abstract", .bool m.isAbstract),
      ("visibility", m.visibility.toJson)]

/-- Reads a method whose visibility `visibility?` reads. -/
def Method.ofJsonWith? (visibility? : Json → Option Visibility) (j : Json) : Option Method := do
  let j ← j.asStructure? 5
  let name ← j.required 0 "name" Json.asString?
  let parameters ← j.required 1 "args" (Json.asList? TypeName.ofJson?)
  let returns ← j.required 2 "returns" TypeName.ofJson?
  let isAbstract ← j.defaulted 3 "is_abstract" Json.asBool? false
  let visibility ← j.defaulted 4 "visibility" visibility? .everyone
  return { name, parameters, returns, isAbstract, visibility }

/-- Reads a method of a type. -/
def Method.ofJson? : Json → Option Method := Method.ofJsonWith? Visibility.ofJson?

/-- A class as JSON. -/
def ClassType.toJson (c : ClassType) : Json :=
  .object
    [("name", c.name.toJson),
      ("parent", (c.parent?.map TypeName.toJson).getD .null),
      ("interfaces", .ofList TypeName.toJson c.interfaces),
      ("public", .bool c.isPublic),
      ("is_abstract", .bool c.isAbstract),
      ("is_interface", .bool c.isInterface),
      ("has_default_constructor", .bool c.hasDefaultConstructor),
      ("methods", .ofList Method.toJson c.methods)]

/-- Reads a class. -/
def ClassType.ofJson? (j : Json) : Option ClassType := do
  let j ← j.asStructure? 8
  let name ← j.required 0 "name" TypeName.ofJson?
  let parent? ← j.optional 1 "parent" TypeName.ofJson?
  let interfaces ← j.defaulted 2 "interfaces" (Json.asList? TypeName.ofJson?) []
  let isPublic ← j.required 3 "public" Json.asBool?
  let isAbstract ← j.required 4 "is_abstract" Json.asBool?
  let isInterface ← j.required 5 "is_interface" Json.asBool?
  let hasDefaultConstructor ← j.required 6 "has_default_constructor" Json.asBool?
  let methods ← j.defaulted 7 "methods" (Json.asList? Method.ofJson?) []
  return { name, parent?, interfaces, isPublic, isAbstract, isInterface, hasDefaultConstructor,
           methods }

/-! ### Specs -/

/-- A resource variant as JSON. -/
def ResourceSpec.toJson (s : ResourceSpec) : Json :=
  .object [("value_type", s.valueType.toJson), ("accessor_name", .string s.accessor)]

/-- Reads a resource variant. -/
def ResourceSpec.ofJson? (j : Json) : Option ResourceSpec := do
  let j ← j.asStructure? 2
  let valueType ← j.required 0 "value_type" TypeName.ofJson?
  let accessor ← j.required 1 "accessor_name" Json.asString?
  return { valueType, accessor }

/-- The members of a listener spec. -/
def ListenerSpec.members (s : ListenerSpec) : List (String × Json) :=
  [("owner_type", s.owner.toJson),
    ("listener_type", s.listener.toJson),
    ("setter_name", .string s.setter)]
    ++ Json.optionalMember "unsetter_name" s.unsetter?
    ++ Json.optionalMember "callback_name" s.callback?

/-- A listener spec as JSON. -/
def ListenerSpec.toJson (s : ListenerSpec) : Json := .object s.members

/-- Reads a listener spec. -/
def ListenerSpec.ofJson? (j : Json) : Option ListenerSpec := do
  let j ← j.asStructure? 5
  let owner ← j.required 0 "owner_type" TypeName.ofJson?
  let listener ← j.required 1 "listener_type" TypeName.ofJson?
  let setter ← j.required 2 "setter_name" Json.asString?
  let unsetter? ← j.optional 3 "unsetter_name" Json.asString?
  let callback? ← j.optional 4 "callback_name" Json.asString?
  return { owner, listener, setter, unsetter?, callback? }

/-- A resolved listener as JSON. -/
def ResolvedListener.toJson (l : ResolvedListener) : Json :=
  .object
    [("spec", l.spec.toJson),
      ("setter", l.setter.toJson),
      ("callback", l.callback.toJson),
      ("stubs", .ofList Method.toJson l.stubs),
      ("listener_is_interface", .bool l.isInterface)]

/-! ### Marked classes -/

/-- The members of a field. -/
def Field.members (f : Field) : List (String × Json) :=
  [("name", .string f.name), ("type", f.type.toJson), ("visibility", f.visibility.toJson)]

/-- A field as JSON. -/
def Field.toJson (f : Field) : Json := .object f.members

/-- Reads a field. -/
def Field.ofJson? (j : Json) : Option Field := do
  let j ← j.asStructure? 3
  let name ← j.required 0 "name" Json.asString?
  let type ← j.required 1 "type" TypeName.ofJson?
  let visibility ← j.defaulted 2 "visibility" Visibility.ofMemberJson? .everyone
  return { name, type, visibility }

/-- An object with one more member in front. -/
def Json.tagged (key value : String) : Json → Json
  | .object members => .object ((key, .string value) :: members)
  | j => j

/-- A member as JSON: its field or method, with the word for which it is. -/
def Member.toJson : Member → Json
  | .field f => f.toJson.tagged "target" "field"
  | .method m => m.toJson.tagged "target" "method"

/-- The word for which member it is, and the rest: an object keeps all
its members, a list starts with the word. -/
def Json.untagged (key : String) : Json → Option (String × Json)
  | .object members =>
    match Json.lookup? key members with
    | some (.string tag) => some (tag, .object members)
    | _ => none
  | .array (.string tag :: items) => some (tag, .array items)
  | _ => none

/-- Reads a member. -/
def Member.ofJson? (j : Json) : Option Member :=
  match j.untagged "target" with
  | some ("field", j) => (Field.ofJson? j).map .field
  | some ("method", j) => (Method.ofJsonWith? Visibility.ofMemberJson? j).map .method
  | _ => none

/-- A marker as JSON. -/
def Marker.toJson (m : Marker) : Json :=
  .object
    [("kind", m.kind.toJson), ("ids", .ofList ResourceId.toJson m.ids),
      ("optional", .bool m.isOptional)]

/-- Reads a marker. -/
def Marker.ofJson? (j : Json) : Option Marker := do
  let j ← j.asStructure? 3
  let kind ← j.required 0 "kind" Kind.ofJson?
  let ids ← j.required 1 "ids" (Json.asList? ResourceId.ofJson?)
  let isOptional ← j.defaulted 2 "optional" Json.asBool? false
  return { kind, ids, isOptional }

/-- A marked member as JSON. -/
def MarkedMember.toJson (m : MarkedMember) : Json :=
  .object [("member", m.member.toJson), ("markers", .ofList Marker.toJson m.markers)]

/-- Reads a marked member. -/
def MarkedMember.ofJson? (j : Json) : Option MarkedMember := do
  let j ← j.asStructure? 2
  let member ← j.required 0 "member" Member.ofJson?
  let markers ← j.required 1 "markers" (Json.asList? Marker.ofJson?)
  return { member, markers }

/-- A marked class as JSON. -/
def MarkedClass.toJson (c : MarkedClass) : Json :=
  .object [("name", c.name.toJson), ("members", .ofList MarkedMember.toJson c.members)]

/-- Reads a marked class. -/
def MarkedClass.ofJson? (j : Json) : Option MarkedClass := do
  let j ← j.asStructure? 2
  let name ← j.required 0 "name" TypeName.ofJson?
  let members ← j.required 1 "members" (Json.asList? MarkedMember.ofJson?)
  return { name, members }

/-! ### The manifest -/

/-- A declared resource kind as JSON. -/
def ResourceDecl.toJson (d : ResourceDecl) : Json :=
  .object [("name", d.kind.toJson), ("variants", .ofList ResourceSpec.toJson d.variants)]

/-- Reads a declared resource kind. -/
def ResourceDecl.ofJson? (j : Json) : Option ResourceDecl := do
  let j ← j.asStructure? 2
  let kind ← j.required 0 "name" Kind.ofJson?
  let variants ← j.required 1 "variants" (Json.asList? ResourceSpec.ofJson?)
  return { kind, variants }

/-- A declared listener kind as JSON: its name beside the members of its spec. -/
def ListenerDecl.toJson (d : ListenerDecl) : Json :=
  .object (("name", d.kind.toJson) :: d.spec.members)

/-- Reads a declared listener kind, which has to be an object. -/
def ListenerDecl.ofJson? (j : Json) : Option ListenerDecl := do
  let kind ← (← j.member? "name") |> Kind.ofJson?
  let spec ← ListenerSpec.ofJson? j
  return { kind, spec }

/-- A manifest as JSON. -/
def Manifest.toJson (m : Manifest) : Json :=
  .object
    [("types", .ofList ClassType.toJson m.types),
      ("views", .ofList Kind.toJson m.views),
      ("resources", .ofList ResourceDecl.toJson m.resources),
      ("listeners", .ofList ListenerDecl.toJson m.listeners),
      ("classes", .ofList MarkedClass.toJson m.classes)]

/-- Reads a manifest. -/
def Manifest.ofJson? (j : Json) : Option Manifest := do
  let j ← j.asStructure? 5
  let types ← j.defaulted 0 "types" (Json.asList? ClassType.ofJson?) []
  let views ← j.defaulted 1 "views" (Json.asList? Kind.ofJson?) []
  let resources ← j.defaulted 2 "resources" (Json.asList? ResourceDecl.ofJson?) []
  let listeners ← j.defaulted 3 "listeners" (Json.asList? ListenerDecl.ofJson?) []
  let classes ← j.defaulted 4 "classes" (Json.asList? MarkedClass.ofJson?) []
  return { types, views, resources, listeners, classes }

end BindingCompiler
