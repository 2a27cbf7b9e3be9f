import BindingCompiler.Table
import BindingCompiler.TypeName.Basic

/-!
# `BindingCompiler.ClassPath.Basic`: the classes the compiler knows

Types are described up front: a class path holds one description for
each declared class or interface, sorted by name. A description names
its supertypes, which need not be declared themselves, and the methods
it declares.
-/

set_option autoImplicit false

namespace BindingCompiler

/-- Who may use a member: everyone (`public`), subclasses and the
package (`protected`), the package only, or the class itself
(`private`). -/
inductive Visibility where
  | everyone
  | subclasses
  | package
  | ownClass
  deriving DecidableEq, Repr, Inhabited

/-- The word for a visibility. -/
def Visibility.word : Visibility → String
  | .everyone => "public"
  | .subclasses => "protected"
  | .package => "package"
  | .ownClass => "private"

/-- The visibility a word stands for. -/
def Visibility.ofWord? : String → Option Visibility
  | "public" => some .everyone
  | "protected" => some .subclasses
  | "package" => some .package
  | "private" => some .ownClass
  | _ => none

/-- A method as its class declares it. -/
structure Method where
  name : String
  parameters : List TypeName
  returns : TypeName
  isAbstract : Bool := false
  visibility : Visibility := .everyone
  deriving DecidableEq, Repr, Inhabited

namespace Method

/-- Same name and parameter types; the returned type is no part of a signature. -/
def sameSignature (m n : Method) : Bool := m.name == n.name && m.parameters == n.parameters

/-- The declaration as it reads in source, `boolean onLongClick(android.view.View)`. -/
def declaration (m : Method) : String :=
  m.returns.text ++ " " ++ m.name ++ "("
    ++ String.intercalate ", " (m.parameters.map TypeName.text) ++ ")"

/-- The first method of each signature, except the signatures in `seen`. -/
def firstOfEach (seen : List Method) : List Method → List Method
  | [] => []
  | m :: rest =>
    if seen.any (sameSignature m) then firstOfEach seen rest
    else m :: firstOfEach (m :: seen) rest

end Method

/-- A class or an interface. -/
structure ClassType where
  name : TypeName
  parent? : Option TypeName
  interfaces : List TypeName := []
  isPublic : Bool := true
  isAbstract : Bool := false
  isInterface : Bool := false
  /-- Whether a subclass can call a constructor without arguments. -/
  hasDefaultConstructor : Bool := true
  methods : List Method := []
  deriving DecidableEq, Repr, Inhabited

namespace ClassType

/-- A public concrete class that extends `java.lang.Object`. -/
def plain (name : TypeName) : ClassType where
  name
  parent? := if name = .object then none else some .object

/-- A public interface. -/
def interface (name : TypeName) : ClassType where
  name
  parent? := none
  isAbstract := true
  isInterface := true
  hasDefaultConstructor := false

/-- The direct supertypes, the parent first. -/
def supertypes (c : ClassType) : List TypeName := c.parent?.toList ++ c.interfaces

end ClassType

/-- The declared classes. -/
structure ClassPath where
  classes : Table ClassType (fun c => c.name.text)
  deriving Inhabited

namespace ClassPath

/-- The class path that declares nothing. -/
def empty : ClassPath := ⟨∅⟩

/-- Declares a class, over an earlier declaration of the same name. -/
def insert (cp : ClassPath) (c : ClassType) : ClassPath := ⟨cp.classes.insert c⟩

/-- Declares the classes of a list in turn. -/
def insertAll (cp : ClassPath) (cs : List ClassType) : ClassPath := cs.foldl insert cp

/-- The declaration of a type. -/
def get? (cp : ClassPath) (t : TypeName) : Option ClassType := cp.classes.get? t.text

/-- Whether a type is declared. -/
def contains (cp : ClassPath) (t : TypeName) : Bool := (cp.get? t).isSome

/-- The number of declared classes. -/
def size (cp : ClassPath) : Nat := cp.classes.size

/-- The declarations, sorted by name. -/
def toList (cp : ClassPath) : List ClassType := cp.classes.toList

/-- Whether a type is a declared interface. -/
def isInterface (cp : ClassPath) (t : TypeName) : Bool :=
  match cp.get? t with
  | some c => c.isInterface
  | none => false

/-- A lookup answers with the declaration of that name. -/
theorem get?_eq_some_iff {cp : ClassPath} {t : TypeName} {c : ClassType} :
    cp.get? t = some c ↔ c ∈ cp.classes.entries ∧ c.name = t := by
  unfold get?
  rw [Table.get?_eq_some_iff]
  constructor
  · rintro ⟨hc, hn⟩
    exact ⟨hc, TypeName.eq_of_text hn⟩
  · rintro ⟨hc, rfl⟩
    exact ⟨hc, rfl⟩

/-- A lookup after a declaration. -/
theorem get?_insert (cp : ClassPath) (c : ClassType) (t : TypeName) :
    (cp.insert c).get? t = if c.name = t then some c else cp.get? t := by
  show (cp.classes.insert c).get? t.text = _
  rw [Table.get?_insert]
  by_cases h : c.name = t
  · rw [if_pos h, if_pos (by rw [h])]
  · rw [if_neg h, if_neg fun he => h (TypeName.eq_of_text he)]
    rfl

/-- Types of different names can be declared in either order. -/
theorem insert_comm (cp : ClassPath) {c d : ClassType} (h : c.name ≠ d.name) :
    (cp.insert c).insert d = (cp.insert d).insert c :=
  congrArg mk (cp.classes.insert_comm fun htext => h (TypeName.eq_of_text htext))

end ClassPath

end BindingCompiler
