/-!
# `BindingCompiler.Declaration.Form`: the kinds of declarations

A configuration declares types, kinds of the three families, and
classes whose members carry markers. A declaration is a table; its
parts are tables or lists of tables in turn, and errors name the part
that they are about.
-/

set_option autoImplicit false

namespace BindingCompiler

/-- What a declaration declares. -/
inductive Form where
  | type
  | view
  | resource
  | listener
  | markedClass
  deriving DecidableEq, Repr

namespace Form

/-- Every form. -/
def all : List Form := [.type, .view, .resource, .listener, .markedClass]

/-- The name of the function that takes such declarations. -/
def word : Form → String
  | .type => "type"
  | .view => "view"
  | .resource => "resource"
  | .listener => "listener"
  | .markedClass => "class"

/-- The form a word stands for. -/
def ofWord? (word : String) : Option Form := all.find? fun form => form.word == word

/-- A word and its form determine each other. -/
theorem ofWord?_word (form : Form) : ofWord? form.word = some form := by
  cases form <;> rfl

end Form

/-- A part of a declaration, as errors call it. -/
inductive Part where
  | declaration (form : Form)
  | variant
  | method
  | field
  /-- A field or a method, where its markers are read. -/
  | member
  | marker
  deriving DecidableEq, Repr

/-- The name of a part. -/
def Part.describe : Part → String
  | .declaration form => "sento." ++ form.word
  | .variant => "resource variant"
  | .method => "method"
  | .field => "field"
  | .member => "member"
  | .marker => "marker"

end BindingCompiler
