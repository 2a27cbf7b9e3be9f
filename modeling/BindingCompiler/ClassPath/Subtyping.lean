import BindingCompiler.ClassPath.Hierarchy

/-!
# `BindingCompiler.ClassPath.Subtyping`: where a value may be stored

Three relations between types, each on top of the one before: a class
is a subclass of its supertypes, a value is assignable to what its type
converts to without a cast, and it is castable when the conversion
holds in either direction.
-/

set_option autoImplicit false

namespace BindingCompiler

namespace ClassPath

/-- Whether `t` is `parent` or inherits from it, through classes or
interfaces. Every reference type inherits from `java.lang.Object`. -/
def isSubclassOf (cp : ClassPath) (t parent : TypeName) : Bool :=
  if t = parent then true
  else if t.isPrimitive || parent.isPrimitive then false
  else if parent = .object then true
  else (cp.hierarchy t).any fun c => c.supertypes.contains parent

/-- Whether a value of type `source` can be stored as a `target`
without a cast. Arrays of references convert item by item. -/
def isAssignable (cp : ClassPath) (source target : TypeName) : Bool :=
  if source = target then true
  else if source.isPrimitive || target.isPrimitive then false
  else
    match _h : source.component?, target.component? with
    | some s, some t => s.isReference && t.isReference && isAssignable cp s t
    | some _, none => target == .object
    | none, some _ => false
    | none, none => cp.isSubclassOf source target
  termination_by source.text.length
  decreasing_by exact TypeName.component?_length _h

/-- Whether a value can be handed on as a `target`, if need be through a checked cast. -/
def isCastable (cp : ClassPath) (source target : TypeName) : Bool :=
  cp.isAssignable source target || cp.isAssignable target source

end ClassPath

end BindingCompiler
