import BindingCompiler.Declaration.Error
import BindingCompiler.Manifest.Basic
import BindingCompiler.Script.Store

/-!
# `BindingCompiler.Declaration.Reader`: declarations out of tables

A declaration is read field by field, in a fixed order; the first field
that is missing or cannot be read is the error. A key without a value
is missing. Keys that a part does not know are passed over.

* `resourceId_integer`: the integers that are ids.
-/

set_option autoImplicit false

namespace BindingCompiler.Declaration

open Script

/-- A reading of a value. -/
abbrev Reading (α : Type) := Except ReadError α

/-! ### Scalars -/

/-- The text of a string, read into `target`. -/
def decoded (target : String) (bytes : List UInt8) : Reading String :=
  match Text.decode bytes with
  | .ok s => .ok s
  | .error fault => .error (.encoding target fault)

/-- What strings are read into when their text is looked at in place. -/
def borrowed : String := "&str"

/-- A text: a string, or a number as it is written. -/
def readText (target : String) (v : Value) : Reading String :=
  match v with
  | .string bytes => decoded target bytes
  | v =>
    match v.numberText? with
    | some text => .ok text
    | none => .error (.mismatch v.typeWord .text)

/-- A plain text. -/
def text (v : Value) : Reading String := readText Shape.text.name v

/-- A type name. -/
def typeName (v : Value) : Reading TypeName :=
  match v with
  | .string bytes => do
    match TypeName.parse (← decoded borrowed bytes) with
    | .ok t => return t
    | .error e => throw (.typeName e)
  | v => .error (.mismatch v.typeWord .typeName)

/-- A kind, white space around its name dropped. -/
def kind (v : Value) : Reading Kind :=
  match v with
  | .string bytes => do
    let name := Text.trimmed (← decoded borrowed bytes)
    if name.isEmpty then throw .emptyKind
    return ⟨name⟩
  | v => .error (.mismatch v.typeWord .kindName)

/-- The integer that a number stands for, the nearest one of 64 bits. -/
def integer? : Value → Option Int
  | .integer n => some n.toInt
  | .float x => x.toInt?.map fun n => max Int64.minValue.toInt (min n Int64.maxValue.toInt)
  | _ => none

/-- A resource id, signed or unsigned. -/
def resourceId (v : Value) : Reading ResourceId :=
  match integer? v with
  | none => .error (.mismatch v.typeWord .resourceId)
  | some n =>
    match ResourceId.ofInt? n with
    | some id => .ok id
    | none => .error (.idOutOfRange n)

/-- A truth value: anything but `false` and nil is true. -/
def truth (v : Value) : Reading Bool := .ok v.isTrue

/-- A visibility. -/
def visibility (v : Value) : Reading Visibility := do
  let word ← readText borrowed v
  match Visibility.ofWord? word with
  | some visibility => return visibility
  | none => throw (.unknownVisibility word)

/-- Integers are read as `ResourceId.ofInt?` says. -/
theorem resourceId_integer (n : Int64) :
    resourceId (.integer n)
      = match ResourceId.ofInt? n.toInt with
        | some id => .ok id
        | none => .error (.idOutOfRange n.toInt) := rfl

/-! ### Tables and their fields -/

/-- A table, where `shape` is wanted. -/
def table (shape : Shape) : Value → Reading TableRef
  | .table ref => .ok ref
  | v => .error (.mismatch v.typeWord shape)

/-- A field that may be missing. -/
def field? {α : Type} (s : Store) (ref : TableRef) (part : Part) (key : String)
    (read : Value → Reading α) : Reading (Option α) :=
  match s.field ref key with
  | .nil => .ok none
  | v =>
    match read v with
    | .ok a => .ok (some a)
    | .error cause => .error (.within part key cause)

/-- A field that has to be there. -/
def field {α : Type} (s : Store) (ref : TableRef) (part : Part) (key : String)
    (read : Value → Reading α) : Reading α := do
  match ← field? s ref part key read with
  | some a => return a
  | none => throw (.missing part key)

/-- A field that may be missing, with a default. -/
def fieldOr {α : Type} (s : Store) (ref : TableRef) (part : Part) (key : String)
    (read : Value → Reading α) (default : α) : Reading α :=
  return (← field? s ref part key read).getD default

/-- A list whose items are read as `item`. -/
def list {α : Type} (s : Store) (item : Shape) (read : Value → Reading α) (v : Value) :
    Reading (List α) := do
  (s.list (← table (.list item) v)).mapM read

/-- A list under a key; a missing list is empty. -/
def listField {α : Type} (s : Store) (ref : TableRef) (part : Part) (key : String)
    (item : Shape) (read : Value → Reading α) : Reading (List α) :=
  fieldOr s ref part key (list s item read) []

/-- Whether a table has a value under a key. -/
def hasField (s : Store) (ref : TableRef) (key : String) : Bool := s.field ref key != .nil

/-! ### Parts -/

/-- A variant of a resource kind. -/
def variantOf (s : Store) (ref : TableRef) : Reading ResourceSpec := do
  let valueType ← field s ref .variant "type" typeName
  let accessor ← field s ref .variant "getter" text
  return ⟨valueType, accessor⟩

/-- A method. -/
def methodOf (s : Store) (ref : TableRef) : Reading Method := do
  let name ← field s ref .method "name" text
  let parameters ← listField s ref .method "args" .typeName typeName
  let returns ← fieldOr s ref .method "returns" typeName .void
  let isAbstract ← fieldOr s ref .method "abstract" truth false
  let visibility ← fieldOr s ref .method "visibility" visibility .everyone
  return { name, parameters, returns, isAbstract, visibility }

/-- A field of a class. -/
def fieldOf (s : Store) (ref : TableRef) : Reading Field := do
  let name ← field s ref .field "name" text
  let type ← field s ref .field "type" typeName
  let visibility ← fieldOr s ref .field "visibility" visibility .everyone
  return { name, type, visibility }

/-- The ids of a marker: one under `id` or a list under `ids`. -/
def markerIds (s : Store) (ref : TableRef) (kind : Kind) : Reading (List ResourceId) :=
  match hasField s ref "ids", hasField s ref "id" with
  | true, true => .error (.idTwice kind)
  | false, true => return [← field s ref .marker "id" resourceId]
  | _, false => listField s ref .marker "ids" .resourceId resourceId

/-- A marker. -/
def markerOf (s : Store) (ref : TableRef) : Reading Marker := do
  let kind ← field s ref .marker "kind" kind
  let ids ← markerIds s ref kind
  let isOptional ← fieldOr s ref .marker "optional" truth false
  return { kind, ids, isOptional }

/-- The markers on a member. -/
def markersOf (s : Store) (ref : TableRef) : Reading (List Marker) :=
  listField s ref .member "markers" .marker fun v => do markerOf s (← table .marker v)

/-- A field with its markers. -/
def markedField (s : Store) (ref : TableRef) : Reading MarkedMember := do
  let member ← fieldOf s ref
  return ⟨.field member, ← markersOf s ref⟩

/-- A method with its markers. -/
def markedMethod (s : Store) (ref : TableRef) : Reading MarkedMember := do
  let member ← methodOf s ref
  return ⟨.method member, ← markersOf s ref⟩

/-! ### Declarations -/

/-- The parent of a type: an interface has none. -/
def parentOf (s : Store) (ref : TableRef) (c : ClassType) : Reading ClassType := do
  match ← field? s ref (.declaration .type) "parent" typeName with
  | none => return c
  | some parent =>
    if c.isInterface then throw (.parentOfInterface c.name)
    return { c with parent? := some parent }

/-- A type. An interface is abstract and has no constructor, whatever is said. -/
def typeOf (s : Store) (ref : TableRef) : Reading ClassType := do
  let part : Part := .declaration .type
  let name ← field s ref part "name" typeName
  if name.isPrimitive || name.isArray then throw (.notAClass name)
  let isInterface ← fieldOr s ref part "interface" truth false
  let c ← parentOf s ref (if isInterface then .interface name else .plain name)
  let interfaces ← listField s ref part "interfaces" .typeName typeName
  let isPublic ← fieldOr s ref part "public" truth true
  let isAbstract ← fieldOr s ref part "abstract" truth c.isAbstract
  let hasDefaultConstructor ← fieldOr s ref part "constructor" truth c.hasDefaultConstructor
  let methods ← listField s ref part "methods" .method fun v => do
    methodOf s (← table .method v)
  return { c with
    interfaces
    isPublic
    isAbstract := isAbstract || isInterface
    hasDefaultConstructor := hasDefaultConstructor && !isInterface
    methods }

/-- A view kind. Its name is read without saying what it is read for. -/
def viewKindOf (s : Store) (ref : TableRef) : Reading Kind :=
  match s.field ref "name" with
  | .nil => .error (.missing (.declaration .view) "name")
  | v => kind v

/-- The variants of a resource kind: those listed, or a single one inline. -/
def variantsOf (s : Store) (ref : TableRef) : Reading (List ResourceSpec) := do
  if hasField s ref "variants" then
    listField s ref (.declaration .resource) "variants" .variant fun v => do
      variantOf s (← table .variant v)
  else return [← variantOf s ref]

/-- A resource kind. -/
def resourceOf (s : Store) (ref : TableRef) : Reading ResourceDecl := do
  let kind ← field s ref (.declaration .resource) "name" kind
  let variants ← variantsOf s ref
  if variants.isEmpty then throw (.noVariants kind)
  return { kind, variants }

/-- A listener kind. -/
def listenerOf (s : Store) (ref : TableRef) : Reading ListenerDecl := do
  let part : Part := .declaration .listener
  let kind ← field s ref part "name" kind
  let owner ← field s ref part "owner" typeName
  let listener ← field s ref part "listener" typeName
  let setter ← field s ref part "setter" text
  let unsetter? ← field? s ref part "unsetter" text
  let callback? ← field? s ref part "callback" text
  return { kind, spec := { owner, listener, setter, unsetter?, callback? } }

/-- A marked class: its fields, then its methods. -/
def classOf (s : Store) (ref : TableRef) : Reading MarkedClass := do
  let part : Part := .declaration .markedClass
  let name ← field s ref part "name" typeName
  let fields ← (← listField s ref part "fields" .table (table .table)).mapM (markedField s)
  let methods ← (← listField s ref part "methods" .table (table .table)).mapM (markedMethod s)
  return { name, members := fields ++ methods }

end BindingCompiler.Declaration
