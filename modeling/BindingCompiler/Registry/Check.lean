import BindingCompiler.ClassPath.Subtyping
import BindingCompiler.Registry.Error
import BindingCompiler.Text.Blank

/-!
# `BindingCompiler.Registry.Check`: specs against the class path

A spec enters the registry only if it describes calls that the class
path allows:

* `variantFault?`: the resource table has an accessor of that name that
  takes an id and returns what the variant promises.
* `resolveListener`: owner and listener are public declared types, the
  listener can be subclassed with every abstract method returning
  `void` or `boolean`, one of them is the callback, and the owner's
  setter and unsetter accept the listener.
-/

set_option autoImplicit false

namespace BindingCompiler

open Text

namespace ClassPath

/-! ### Resource variants -/

/-- The accessor of the resource table that takes an id. -/
def accessor? (cp : ClassPath) (name : String) : Option Method :=
  (cp.findMethods .resources name).find? fun m => m.parameters == [TypeName.int]

/-- What is wrong with a resource variant. -/
def variantFault? (cp : ClassPath) (variant : ResourceSpec) : Option SpecFault :=
  let element := variant.valueType.element
  if isBlankText variant.accessor then some .emptyAccessor
  else if variant.valueType.isVoid then some .voidValue
  else if element.isReference && !cp.contains element then some (.unknownClass element)
  else
    match cp.accessor? variant.accessor with
    | none => some (.unknownAccessor variant.accessor)
    | some m =>
      if cp.isAssignable m.returns variant.valueType then none
      else some (.unfitAccessor variant.accessor m.returns variant.valueType)

/-- What is wrong with the variants of a resource kind: the fault of the first bad one. -/
def variantsFault? (cp : ClassPath) (variants : List ResourceSpec) : Option SpecFault :=
  if variants.isEmpty then some .noVariants else variants.findSome? cp.variantFault?

/-! ### Listeners -/

/-- A blank name in a listener spec. -/
def nameFault? (spec : ListenerSpec) : Option SpecFault :=
  if isBlankText spec.setter then some .emptySetter
  else if spec.unsetter?.any isBlankText then some .emptyUnsetter
  else if spec.callback?.any isBlankText then some .emptyCallback
  else none

/-- A type that cannot play a role because it is no class. -/
def roleFault? (role : Role) (type : TypeName) : Option SpecFault :=
  if type.isArray then some (.arrayRole role type)
  else if type.isPrimitive then some (.primitiveRole role type)
  else none

/-- Why the declared types cannot be an owner and its listener. -/
def accessFault? (owner listener : ClassType) : Option SpecFault :=
  if !owner.isPublic then some (.hiddenRole .owner owner.name)
  else if !listener.isPublic then some (.hiddenRole .listener listener.name)
  else if !listener.isAbstract && !listener.isInterface then
    some (.concreteListener listener.name)
  else if !listener.isInterface && !listener.hasDefaultConstructor then
    some (.noConstructor listener.name)
  else none

/-- Whether a callback or a bound method may return the type. -/
def isSupportedReturn (t : TypeName) : Bool := t == .void || t == .boolean

/-- The first method that returns neither `void` nor `boolean`. -/
def returnFault? (methods : List Method) : Option SpecFault :=
  (methods.find? fun m => !isSupportedReturn m.returns).map fun m =>
    .unsupportedReturn m.name m.returns

/-- Picks the callback out of a listener's abstract methods: the only
one of the given name, or the only one at all. The others are the stubs. -/
def pickCallback (listener : TypeName) (name? : Option String) (methods : List Method) :
    Except SpecFault (Method × List Method) :=
  match name? with
  | some name =>
    match methods.filter fun m => m.name == name with
    | [m] => .ok (m, methods.filter fun m => !m.name == name)
    | [] => .error (.unknownCallback listener name)
    | several => .error (.ambiguousCallback listener several.length name)
  | none =>
    match methods with
    | [m] => .ok (m, [])
    | [] => .error (.nothingAbstract listener)
    | several => .error (.severalAbstract listener several)

/-- The owner's only method of the name with one parameter, if it accepts the listener. -/
def findSetter (cp : ClassPath) (owner listener : TypeName) (name : String) :
    Except SpecFault Method :=
  match (cp.findMethods owner name).filter fun m => m.parameters.length == 1 with
  | [m] =>
    match m.parameters with
    | accepted :: _ =>
      if cp.isSubclassOf listener accepted then .ok m
      else .error (.unfitSetter name listener accepted)
    | [] => .error (.unknownSetter owner name)
  | [] => .error (.unknownSetter owner name)
  | several => .error (.ambiguousSetter owner name several)

/-- Fails with a fault, if there is one. -/
def refuse : Option SpecFault → Except SpecFault Unit
  | some fault => .error fault
  | none => .ok ()

/-- The declaration of a type that plays a role. -/
def declared (cp : ClassPath) (role : Role) (type : TypeName) : Except SpecFault ClassType :=
  match cp.get? type with
  | some c => .ok c
  | none => .error (.unknownRole role type)

/-- Checks a listener spec and finds the methods it stands for. -/
def resolveListener (cp : ClassPath) (spec : ListenerSpec) :
    Except SpecFault ResolvedListener := do
  refuse (nameFault? spec)
  refuse (roleFault? .owner spec.owner)
  refuse (roleFault? .listener spec.listener)
  let owner ← cp.declared .owner spec.owner
  let listener ← cp.declared .listener spec.listener
  refuse (accessFault? owner listener)
  let methods := cp.abstractMethods spec.listener
  refuse (returnFault? methods)
  let (callback, stubs) ← pickCallback spec.listener spec.callback? methods
  let setter ← cp.findSetter spec.owner spec.listener spec.setter
  unless spec.unsetsWithNull do
    let _ ← cp.findSetter spec.owner spec.listener spec.unsetter
  return { spec, setter, callback, stubs, isInterface := listener.isInterface }

end ClassPath

end BindingCompiler
