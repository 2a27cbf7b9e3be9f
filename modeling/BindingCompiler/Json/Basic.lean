import BindingCompiler.Table

/-!
# `BindingCompiler.Json.Basic`: JSON values and their parts

A structure is written as an object with a member for each field. It is
read from such an object, members of other names being passed over, or
from the list of its fields in order.

* `required_some`, `defaulted_some`: reading a field that is there reads
  its value.
-/

set_option autoImplicit false

namespace BindingCompiler

/-- A JSON value. -/
inductive Json where
  | null
  | bool (value : Bool)
  | int (value : Int)
  /-- A number with a fraction or an exponent, as it is written. -/
  | decimal (text : String)
  | string (value : String)
  | array (items : List Json)
  | object (members : List (String × Json))
  deriving Repr, Inhabited

namespace Json

/-! ### Writing -/

/-- A list as an array. -/
def ofList {α : Type} (f : α → Json) (l : List α) : Json := .array (l.map f)

/-- A member that is left out when it is absent. -/
def optionalMember (key : String) (value : Option String) : List (String × Json) :=
  value.toList.map fun v => (key, .string v)

mutual

/-- The value with the members of every object sorted by key. -/
def sortKeys : Json → Json
  | .array items => .array (sortKeysList items)
  | .object members => .object (sortKeysMembers members)
  | j => j

/-- The items of an array, each with sorted keys. -/
def sortKeysList : List Json → List Json
  | [] => []
  | j :: rest => sortKeys j :: sortKeysList rest

/-- The members of an object in order, each with sorted keys. -/
def sortKeysMembers : List (String × Json) → List (String × Json)
  | [] => []
  | (key, j) :: rest => Table.place Prod.fst (key, sortKeys j) (sortKeysMembers rest)

end

/-! ### Reading -/

/-- The member of an object called `key`. -/
def lookup? (key : String) : List (String × Json) → Option Json
  | [] => none
  | (k, v) :: rest => if k = key then some v else lookup? key rest

/-- The member of an object called `key`; other values have none. -/
def member? (j : Json) (key : String) : Option Json :=
  match j with
  | .object members => lookup? key members
  | _ => none

/-- Whether the value is `null`. -/
def isNull : Json → Bool
  | .null => true
  | _ => false

/-- Whether the value is an object without members. -/
def isEmptyObject : Json → Bool
  | .object [] => true
  | _ => false

/-- Reads a text. -/
def asString? : Json → Option String
  | .string s => some s
  | _ => none

/-- Reads a truth value. -/
def asBool? : Json → Option Bool
  | .bool b => some b
  | _ => none

/-- Reads an integer. -/
def asInt? : Json → Option Int
  | .int n => some n
  | _ => none

/-- Reads an array whose items `f` reads. -/
def asList? {α : Type} (f : Json → Option α) : Json → Option (List α)
  | .array items => items.mapM f
  | _ => none

/-- The value of a structure with `size` fields: an object, or a list of
at most that many items. -/
def asStructure? (size : Nat) (j : Json) : Option Json :=
  match j with
  | .object _ => some j
  | .array items => if items.length ≤ size then some j else none
  | _ => none

/-- A field of a structure, by name in an object and by position in a list. -/
def part? (j : Json) (position : Nat) (key : String) : Option Json :=
  match j with
  | .object members => lookup? key members
  | .array items => items[position]?
  | _ => none

/-- Reads a field that has to be there. -/
def required {α : Type} (j : Json) (position : Nat) (key : String) (f : Json → Option α) :
    Option α :=
  match j.part? position key with
  | some v => f v
  | none => none

/-- Reads a field that has a default. -/
def defaulted {α : Type} (j : Json) (position : Nat) (key : String) (f : Json → Option α)
    (default : α) : Option α :=
  match j.part? position key with
  | some v => f v
  | none => some default

/-- Reads a field that may be absent or `null`. -/
def optional {α : Type} (j : Json) (position : Nat) (key : String) (f : Json → Option α) :
    Option (Option α) :=
  match j.part? position key with
  | some .null | none => some none
  | some v => (f v).map some

/-- Reading a required field that is there reads its value. -/
theorem required_some {α : Type} {j v : Json} {position : Nat} {key : String}
    {f : Json → Option α} (h : j.part? position key = some v) :
    j.required position key f = f v := by
  unfold required
  rw [h]

/-- Reading a field with a default that is there reads its value. -/
theorem defaulted_some {α : Type} {j v : Json} {position : Nat} {key : String}
    {f : Json → Option α} {default : α} (h : j.part? position key = some v) :
    j.defaulted position key f default = f v := by
  unfold defaulted
  rw [h]

end Json

end BindingCompiler
