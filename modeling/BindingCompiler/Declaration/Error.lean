import BindingCompiler.Kind
import BindingCompiler.Declaration.Form
import BindingCompiler.Text.Utf8
import BindingCompiler.TypeName.Parser

/-!
# `BindingCompiler.Declaration.Error`: why a declaration is rejected

A value that cannot be read names what was found and what was wanted;
an error inside a part is wrapped with the part and the key it stands
under, the outermost first.
-/

set_option autoImplicit false

namespace BindingCompiler

/-- What a value is read as. -/
inductive Shape where
  | table
  | typeName
  | kindName
  | resourceId
  | text
  | variant
  | method
  | marker
  | list (item : Shape)
  deriving DecidableEq, Repr

namespace Shape

/-- The name of a shape. -/
def name : Shape → String
  | .table => "Table"
  | .typeName => "TypeName"
  | .kindName => "BindingKind"
  | .resourceId => "ResourceId"
  | .text => "String"
  | .variant => "ResourceBindingSpec"
  | .method => "MethodInfo"
  | .marker => "Marker"
  | .list item => "Vec<" ++ item.name ++ ">"

/-- What a value of the shape is written as. -/
def expected : Shape → String
  | .typeName => "a type name string"
  | .kindName => "a kind name string"
  | .resourceId => "an integer"
  | .text => "string or number"
  | .table | .variant | .method | .marker | .list _ => "table"

/-- What a value was wanted for, in an error. -/
def wanted : Shape → String
  | .table => "table"
  | shape => shape.name ++ " (expected " ++ shape.expected ++ ")"

end Shape

/-- Why a value cannot be read as a part of a declaration. -/
inductive ReadError where
  /-- The value is of another type. -/
  | mismatch (found : String) (wanted : Shape)
  /-- The string is not UTF-8; `target` is what it is read into. -/
  | encoding (target : String) (fault : Text.Utf8Fault)
  | typeName (error : TypeNameError)
  | emptyKind
  | idOutOfRange (number : Int)
  | unknownVisibility (word : String)
  /-- The part lacks a key that it has to have. -/
  | missing (part : Part) (key : String)
  /-- The value under a key of the part cannot be read. -/
  | within (part : Part) (key : String) (cause : ReadError)
  | noVariants (kind : Kind)
  | notAClass (name : TypeName)
  | parentOfInterface (name : TypeName)
  | idTwice (kind : Kind)
  deriving DecidableEq, Repr

namespace ReadError

/-- An error in words. -/
def message : ReadError → String
  | .mismatch found wanted => "error converting Lua " ++ found ++ " to " ++ wanted.wanted
  | .encoding target fault =>
    "error converting Lua string to " ++ target ++ " (" ++ fault.message ++ ")"
  | .typeName error => error.message
  | .emptyKind => "binding kind name is empty"
  | .idOutOfRange number => s!"resource id {number} is out of the 32-bit range"
  | .unknownVisibility word =>
    s!"unknown visibility '{word}', expected public, protected, package or private"
  | .missing part key => part.describe ++ " requires a \x60" ++ key ++ "\x60 field"
  | .within part key cause =>
    part.describe ++ ": invalid \x60" ++ key ++ "\x60 field: " ++ cause.message
  | .noVariants kind => s!"sento.resource '{kind.name}' requires at least one variant"
  | .notAClass name => s!"sento.type: '{name.text}' is not a class or interface name"
  | .parentOfInterface name =>
    s!"sento.type: interface '{name.text}' can't have a parent class, use \x60interfaces\x60"
  | .idTwice kind => s!"marker '{kind.name}' has both \x60id\x60 and \x60ids\x60"

/-- Whether the value was of a wrong type, or a string not readable,
and not inside a part. -/
def isConversion : ReadError → Bool
  | .mismatch _ _ | .encoding _ _ => true
  | _ => false

end ReadError

/-- Why a declaration is rejected. -/
inductive DeclarationError where
  /-- What was given is no table. -/
  | argument (found : String)
  | malformed (cause : ReadError)
  /-- The class was declared before. -/
  | duplicateClass (name : TypeName)
  deriving DecidableEq, Repr

/-- A rejection in words. -/
def DeclarationError.message : DeclarationError → String
  | .argument found => "bad argument #1: " ++ (ReadError.mismatch found .table).message
  | .malformed cause => cause.message
  | .duplicateClass name =>
    s!"duplicate class '{name.text}': sento.class was already called for it"

end BindingCompiler
