import BindingCompiler.Json.Basic
import BindingCompiler.Text.Numeral

/-!
# `BindingCompiler.Json.Printer`: JSON as text

The long form: each item and each member on a line of its own, indented
by two spaces for each level; empty arrays and objects stay on one line.
-/

set_option autoImplicit false

namespace BindingCompiler.Json

/-- A character between the quotes of a string. Quotes, backslashes and
control characters are escaped. -/
def escapeChar (c : Char) : List Char :=
  match c with
  | '"' => ['\\', '"']
  | '\\' => ['\\', '\\']
  | '\n' => ['\\', 'n']
  | '\r' => ['\\', 'r']
  | '\t' => ['\\', 't']
  | c =>
    if c.toNat = 8 then ['\\', 'b']
    else if c.toNat = 12 then ['\\', 'f']
    else if c.toNat < 0x20 then '\\' :: 'u' :: Text.hexNumeral 4 c.toNat
    else [c]

/-- A string in quotes. -/
def quote (s : String) : String :=
  "\"" ++ String.ofList (s.toList.flatMap escapeChar) ++ "\""

/-- The indentation at a level. -/
def indent (level : Nat) : String := String.ofList (List.replicate (2 * level) ' ')

/-- Lines between two brackets. -/
def bracket (level : Nat) (opening closing : String) (lines : List String) : String :=
  opening ++ "\n" ++ String.intercalate ",\n" lines ++ "\n" ++ indent level ++ closing

mutual

/-- A value at a level. -/
def prettyAt (level : Nat) : Json → String
  | .null => "null"
  | .bool true => "true"
  | .bool false => "false"
  | .int n => toString n
  | .decimal text => text
  | .string s => quote s
  | .array [] => "[]"
  | .array (j :: rest) => bracket level "[" "]" (prettyItems (level + 1) (j :: rest))
  | .object [] => "\x7b\x7d"
  | .object (m :: rest) => bracket level "\x7b" "\x7d" (prettyMembers (level + 1) (m :: rest))

/-- The items of an array, each on its line. -/
def prettyItems (level : Nat) : List Json → List String
  | [] => []
  | j :: rest => (indent level ++ prettyAt level j) :: prettyItems level rest

/-- The members of an object, each on its line. -/
def prettyMembers (level : Nat) : List (String × Json) → List String
  | [] => []
  | (key, j) :: rest =>
    (indent level ++ quote key ++ ": " ++ prettyAt level j) :: prettyMembers level rest

end

/-- A value as text. -/
def pretty (j : Json) : String := prettyAt 0 j

end BindingCompiler.Json
