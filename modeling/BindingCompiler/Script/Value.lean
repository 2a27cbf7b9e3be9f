import BindingCompiler.Declaration.Form
import BindingCompiler.Number.Significant
import BindingCompiler.Text.Utf8

/-!
# `BindingCompiler.Script.Value`: the values of a configuration script

Scripts compute with nil, booleans, integers of 64 bits, floating point
numbers, byte strings, tables and functions. A table is shared by all
who hold it, so a value only says where it is stored.

* `key_key`: a table key is its own key.
-/

set_option autoImplicit false

namespace BindingCompiler.Script

/-- The place of a table in a store. -/
structure TableRef where
  index : Nat
  deriving DecidableEq, Repr

/-- The functions that a script can call. -/
inductive Function where
  /-- Takes a declaration of the form. -/
  | declare (form : Form)
  /-- Raises an error. -/
  | raise
  /-- Runs a module and gives what it returns. -/
  | require
  /-- A function that does nothing. -/
  | idle
  deriving DecidableEq, Repr

/-- A value of a script. -/
inductive Value where
  | nil
  | boolean (value : Bool)
  | integer (value : Int64)
  | float (value : Binary64)
  | string (bytes : List UInt8)
  | table (ref : TableRef)
  | function (f : Function)
  deriving DecidableEq, Repr

instance : Inhabited Value := ⟨.nil⟩

namespace Value

/-! ### Types -/

/-- The type of a value, integers told apart from other numbers. -/
def typeWord : Value → String
  | .nil => "nil"
  | .boolean _ => "boolean"
  | .integer _ => "integer"
  | .float _ => "number"
  | .string _ => "string"
  | .table _ => "table"
  | .function _ => "function"

/-- The type of a value, as the script itself sees it. -/
def scriptType : Value → String
  | .integer _ => "number"
  | v => v.typeWord

/-- Everything but `nil` and `false` counts as true. -/
def isTrue : Value → Bool
  | .nil | .boolean false => false
  | _ => true

/-- The string of a text. -/
def ofText (s : String) : Value := .string (Text.encode s)

/-! ### Numbers -/

/-- The integer with the value of a floating point number, if there is one. -/
def exactInteger? (x : Binary64) : Option Int64 :=
  match x.toInt? with
  | some n =>
    if Int64.minValue.toInt ≤ n ∧ n ≤ Int64.maxValue.toInt then some (Int64.ofInt n) else none
  | none => none

/-- A number as text; a floating point number shows that it is one. -/
def numberText? : Value → Option String
  | .integer n => some (toString n.toInt)
  | .float x =>
    let text := Number.significantText x
    if text.all fun c => c == '-' || ('0' ≤ c && c ≤ '9') then some (text ++ ".0") else some text
  | _ => none

/-! ### Keys -/

/-- The key that a value is in a table: an integral number is the integer. -/
def key : Value → Value
  | .float x =>
    match exactInteger? x with
    | some n => .integer n
    | none => .float x
  | v => v

/-- A table key is its own key. -/
theorem key_key (v : Value) : v.key.key = v.key := by
  cases v with
  | float x => cases h : exactInteger? x <;> simp [key, h]
  | _ => rfl

end Value

end BindingCompiler.Script
