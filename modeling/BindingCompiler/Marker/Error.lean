import BindingCompiler.Marker.Basic
import BindingCompiler.Registry.Error

/-!
# `BindingCompiler.Marker.Error`: why a marker cannot be applied
-/

set_option autoImplicit false

namespace BindingCompiler

/-- The field types that a kind accepts. -/
inductive AcceptedTypes where
  /-- Views, and any interface. -/
  | views
  /-- What one of the value types can be stored in. -/
  | values (types : List TypeName)
  deriving DecidableEq, Repr

/-- The accepted types in words. -/
def AcceptedTypes.message : AcceptedTypes → String
  | .views => s!"a subclass of '{TypeName.view}' or an interface"
  | .values types =>
    "one of [" ++ String.intercalate ", " (types.map fun t => "'" ++ t.text ++ "'") ++ "]"

/-- Why a marker does not fit its member or its class. -/
inductive MarkerError where
  | noIds (kind : Kind) (member : Member)
  | malformedId (kind : Kind) (member : Member) (id : ResourceId)
  | wrongTarget (kind : Kind) (family : Family) (member : Member)
  | tooManyIds (kind : Kind) (member : Member) (count : Nat)
  | inaccessible (kind : Kind) (member : Member)
  | unfitField (kind : Kind) (field : Field) (accepted : AcceptedTypes)
  | unsupportedReturn (kind : Kind) (method : Method)
  | unmatchedArgument (kind : Kind) (method : Method) (argument : TypeName) (callback : Method)
  | duplicate (kind : Kind) (member : Member)
  | overloaded (kind : Kind) (method : Method)
  deriving DecidableEq, Repr

/-- An error in words. -/
def MarkerError.message : MarkerError → String
  | .noIds kind member => s!"@{kind.name} on {member.describe} has no ids"
  | .malformedId kind member id =>
    s!"@{kind.name} on {member.describe} has a malformed id {id.literal}"
  | .wrongTarget kind family member =>
    s!"@{kind.name} is a {family.word} binding and can't be placed on {member.describe}"
  | .tooManyIds kind member count =>
    s!"@{kind.name} on {member.describe} takes exactly one id, but {count} were given"
  | .inaccessible kind member => s!"@{kind.name} can't be placed on private {member.describe}"
  | .unfitField kind field accepted =>
    s!"@{kind.name} can't bind field '{field.name}' of type '{field.type}', expected "
      ++ accepted.message
  | .unsupportedReturn kind method =>
    s!"@{kind.name} can't bind method '{method.name}': it returns '{method.returns}', but only "
      ++ "void and boolean are supported"
  | .unmatchedArgument kind method argument callback =>
    s!"@{kind.name} can't bind method '{method.name}': argument '{argument}' didn't match any "
      ++ s!"parameter of '{callback.declaration}'"
  | .duplicate kind member => s!"@{kind.name} is placed more than once on {member.describe}"
  | .overloaded kind method =>
    s!"@{kind.name} is placed on more than one method named '{method.name}', their listener "
      ++ "fields would clash"

/-- Why binding a marker fails: at the registry, or at the marker itself. -/
inductive BindingError where
  | registry (error : RegistryError)
  | marker (error : MarkerError)
  deriving DecidableEq, Repr

/-- An error in words. -/
def BindingError.message : BindingError → String
  | .registry e => e.message
  | .marker e => e.message

end BindingCompiler
