import BindingCompiler.Kind

/-!
# `BindingCompiler.Registry.Error`: why a kind is refused or not found

A spec is malformed for one of the causes of `SpecFault`; `message`
puts each cause into words.
-/

set_option autoImplicit false

namespace BindingCompiler

/-- The two types a listener spec names. -/
inductive Role where
  | owner
  | listener
  deriving DecidableEq, Repr

/-- The word for a role. -/
def Role.word : Role → String
  | .owner => "owner"
  | .listener => "listener"

/-- What is wrong with a spec. -/
inductive SpecFault where
  /-- A resource kind needs a variant. -/
  | noVariants
  /-- A registered resource kind has lost its variants. -/
  | variantsMissing
  | emptyAccessor
  | voidValue
  | unknownClass (name : TypeName)
  | unknownAccessor (accessor : String)
  | unfitAccessor (accessor : String) (returns valueType : TypeName)
  | emptySetter
  | emptyUnsetter
  | emptyCallback
  | arrayRole (role : Role) (type : TypeName)
  | primitiveRole (role : Role) (type : TypeName)
  | unknownRole (role : Role) (type : TypeName)
  | hiddenRole (role : Role) (type : TypeName)
  | concreteListener (listener : TypeName)
  | noConstructor (listener : TypeName)
  | unsupportedReturn (method : String) (returns : TypeName)
  | unknownCallback (listener : TypeName) (callback : String)
  | ambiguousCallback (listener : TypeName) (count : Nat) (callback : String)
  | nothingAbstract (listener : TypeName)
  | severalAbstract (listener : TypeName) (methods : List Method)
  | unknownSetter (owner : TypeName) (setter : String)
  | ambiguousSetter (owner : TypeName) (setter : String) (methods : List Method)
  | unfitSetter (setter : String) (listener accepted : TypeName)
  deriving DecidableEq, Repr

/-- Declarations in a row. -/
def declarationList (methods : List Method) : String :=
  String.intercalate ", " (methods.map Method.declaration)

/-- A fault in words. -/
def SpecFault.message : SpecFault → String
  | .noVariants => "at least one resource variant is required"
  | .variantsMissing => "no resource variants"
  | .emptyAccessor => "accessor name is empty"
  | .voidValue => "value type must not be void"
  | .unknownClass name => s!"class '{name}' wasn't found"
  | .unknownAccessor accessor => s!"method '{TypeName.resources}#{accessor}(int)' wasn't found"
  | .unfitAccessor accessor returns valueType =>
    s!"method '{TypeName.resources}#{accessor}(int)' returns '{returns}' which is not "
      ++ s!"assignable to '{valueType}'"
  | .emptySetter => "setter name is empty"
  | .emptyUnsetter => "unsetter name is empty"
  | .emptyCallback => "callback name is empty"
  | .arrayRole role type => s!"{role.word} type mustn't be an array, but '{type}' was found"
  | .primitiveRole role type =>
    s!"{role.word} type mustn't be a primitive one, but '{type}' was found"
  | .unknownRole role type => s!"{role.word} type '{type}' wasn't found"
  | .hiddenRole role type => s!"{role.word} type '{type}' must be public"
  | .concreteListener listener =>
    s!"listener type '{listener}' must be an abstract class or an interface"
  | .noConstructor listener =>
    s!"listener type '{listener}' must have a zero-arg constructor with public or protected "
      ++ "visibility"
  | .unsupportedReturn method returns =>
    s!"listener method '{method}' returns '{returns}', but only void and boolean are supported"
  | .unknownCallback listener callback =>
    s!"listener type '{listener}' has no abstract method '{callback}'"
  | .ambiguousCallback listener count callback =>
    s!"listener type '{listener}' has {count} abstract methods named '{callback}'"
  | .nothingAbstract listener =>
    s!"listener type '{listener}' must have exactly one abstract method, but none was found"
  | .severalAbstract listener methods =>
    s!"listener type '{listener}' must have exactly one abstract method, but {methods.length} "
      ++ s!"were found [{declarationList methods}]; name the callback"
  | .unknownSetter owner setter =>
    s!"owner type '{owner}' must have exactly one single-arg method '{setter}', but none was "
      ++ "found"
  | .ambiguousSetter owner setter methods =>
    s!"owner type '{owner}' must have exactly one single-arg method '{setter}', but "
      ++ s!"{methods.length} were found [{declarationList methods}]"
  | .unfitSetter setter listener accepted =>
    s!"listener setter '{setter}' doesn't accept '{listener}' as an argument, only subclasses "
      ++ s!"of '{accepted}' are allowed"

/-- Why a kind cannot be registered or queried. -/
inductive RegistryError where
  | unknownKind (kind : Kind)
  | wrongFamily (kind : Kind) (expected actual : Family)
  | malformed (kind : Kind) (fault : SpecFault)
  deriving DecidableEq, Repr

/-- An error in words. -/
def RegistryError.message : RegistryError → String
  | .unknownKind kind => s!"unknown binding kind '{kind.name}'"
  | .wrongFamily kind expected actual =>
    s!"binding kind '{kind.name}' is a {actual.word} binding, not a {expected.word} binding"
  | .malformed kind fault => s!"malformed spec for '{kind.name}': {fault.message}"

end BindingCompiler
