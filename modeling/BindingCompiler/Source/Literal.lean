/-!
# `BindingCompiler.Source.Literal`: text as a Java string literal

A literal stands between quotes, with a backslash before each quote and
each backslash and `\n` for a line feed.
-/

set_option autoImplicit false

namespace BindingCompiler.Source

/-- The characters between the quotes. -/
def escape : List Char → List Char
  | [] => []
  | '"' :: rest => '\\' :: '"' :: escape rest
  | '\\' :: rest => '\\' :: '\\' :: escape rest
  | '\n' :: rest => '\\' :: 'n' :: escape rest
  | c :: rest => c :: escape rest

/-- The literal of a text. -/
def stringLiteral (s : String) : String :=
  "\"" ++ String.ofList (escape s.toList) ++ "\""

end BindingCompiler.Source
