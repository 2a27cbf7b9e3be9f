import BindingCompiler.Registry.Check

/-!
# `BindingCompiler.Registry.Basic`: the table of binding kinds

A registry maps kinds to descriptors over a class path. Registration
checks a spec against the class path of that moment; a malformed spec
changes nothing, and a kind that is registered again takes the newer
descriptor.

* `descriptor?_enter`: after a kind is entered, it has the new
  descriptor and every other kind keeps its own.
-/

set_option autoImplicit false

namespace BindingCompiler

/-- A kind and its descriptor. -/
structure RegisteredKind where
  kind : Kind
  descriptor : Descriptor
  deriving DecidableEq, Repr

/-- The registered kinds, over the classes they are checked against. -/
structure Registry where
  classPath : ClassPath
  kinds : Table RegisteredKind (fun k => k.kind.name)
  deriving Inhabited

namespace Registry

/-- The registry without kinds over a class path. -/
def ofClassPath (classPath : ClassPath) : Registry := ⟨classPath, ∅⟩

/-- Declares a class; the kinds stay as they were checked. -/
def declare (r : Registry) (c : ClassType) : Registry :=
  { r with classPath := r.classPath.insert c }

/-- Enters a kind with its descriptor. -/
def enter (r : Registry) (kind : Kind) (descriptor : Descriptor) : Registry :=
  { r with kinds := r.kinds.insert ⟨kind, descriptor⟩ }

/-! ### Registration -/

/-- Registers a kind that binds a field to a view. -/
def registerView (r : Registry) (kind : Kind) : Registry := r.enter kind .view

/-- Registers a resource kind, whose variants are tried in order. -/
def registerResource (r : Registry) (kind : Kind) (variants : List ResourceSpec) :
    Except RegistryError Registry :=
  match r.classPath.variantsFault? variants with
  | some fault => .error (.malformed kind fault)
  | none => .ok (r.enter kind (.resource variants))

/-- Registers a listener kind. -/
def registerListener (r : Registry) (kind : Kind) (spec : ListenerSpec) :
    Except RegistryError Registry :=
  match r.classPath.resolveListener spec with
  | .error fault => .error (.malformed kind fault)
  | .ok resolved => .ok (r.enter kind (.listener resolved))

/-! ### Queries -/

/-- The descriptor of a kind, if it is registered. -/
def descriptor? (r : Registry) (kind : Kind) : Option Descriptor :=
  (r.kinds.get? kind.name).map RegisteredKind.descriptor

/-- The descriptor of a registered kind. -/
def descriptor (r : Registry) (kind : Kind) : Except RegistryError Descriptor :=
  match r.descriptor? kind with
  | some d => .ok d
  | none => .error (.unknownKind kind)

/-- Whether a kind is registered. -/
def contains (r : Registry) (kind : Kind) : Bool := (r.descriptor? kind).isSome

/-- The family of a registered kind. -/
def family (r : Registry) (kind : Kind) : Except RegistryError Family :=
  (r.descriptor kind).map Descriptor.family

/-- The registered kinds with their families, sorted by name. -/
def kindList (r : Registry) : List (Kind × Family) :=
  r.kinds.toList.map fun k => (k.kind, k.descriptor.family)

/-- The number of registered kinds. -/
def size (r : Registry) : Nat := r.kinds.size

/-- The variants of a resource kind, in the order in which they are tried. -/
def variants (r : Registry) (kind : Kind) : Except RegistryError (List ResourceSpec) :=
  match r.descriptor kind with
  | .ok (.resource variants) => .ok variants
  | .ok d => .error (.wrongFamily kind .resource d.family)
  | .error e => .error e

/-- The first variant of a resource kind. -/
def primaryVariant (r : Registry) (kind : Kind) : Except RegistryError ResourceSpec :=
  match r.variants kind with
  | .ok (first :: _) => .ok first
  | .ok [] => .error (.malformed kind .variantsMissing)
  | .error e => .error e

/-- Of some variants, the one that yields exactly the type of a field,
or else the first whose value can be stored in it. -/
def fittingVariant? (cp : ClassPath) (variants : List ResourceSpec) (type : TypeName) :
    Option ResourceSpec :=
  match variants.find? fun v => v.valueType == type with
  | some v => some v
  | none => variants.find? fun v => cp.isAssignable v.valueType type

/-- The variant of a resource kind that fits a field. -/
def resolveVariant (r : Registry) (kind : Kind) (type : TypeName) :
    Except RegistryError (Option ResourceSpec) :=
  (r.variants kind).map fun variants => fittingVariant? r.classPath variants type

/-- A listener kind with the methods it stands for. -/
def listener (r : Registry) (kind : Kind) : Except RegistryError ResolvedListener :=
  match r.descriptor kind with
  | .ok (.listener resolved) => .ok resolved
  | .ok d => .error (.wrongFamily kind .listener d.family)
  | .error e => .error e

/-- After a kind is entered it has the new descriptor, and the others keep theirs. -/
theorem descriptor?_enter (r : Registry) (kind other : Kind) (d : Descriptor) :
    (r.enter kind d).descriptor? other = if kind = other then some d else r.descriptor? other := by
  show ((r.kinds.insert ⟨kind, d⟩).get? other.name).map _ = _
  rw [Table.get?_insert]
  by_cases h : kind = other
  · rw [if_pos h, if_pos (by rw [h])]
    rfl
  · rw [if_neg h, if_neg fun he => h (by cases kind; cases other; simp_all)]
    rfl

end Registry

end BindingCompiler
