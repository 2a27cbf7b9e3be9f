import BindingCompiler.Files.Location
import BindingCompiler.Marker.Error

/-!
# `BindingCompiler.Output.Basic`: where generated files go

Generated files stand below an output directory, in a directory for
each name of their package. Paths are reported as they follow from the
way the output directory was written.
-/

set_option autoImplicit false

namespace BindingCompiler

/-- An output directory. -/
structure Output where
  /-- The directory as it was written. -/
  written : String
  /-- Where it is written from. -/
  working : Path
  /-- Whether plans are written next to the sources. -/
  withPlans : Bool := false
  deriving Repr

/-- A file that was generated. -/
structure GeneratedFile where
  path : String
  /-- Whether the file was written; one that holds the same text already is left alone. -/
  isChanged : Bool
  deriving DecidableEq, Repr

/-- Why files are not generated. -/
inductive GenerateError where
  /-- A class has no plan. -/
  | binding (name : TypeName) (cause : BindingError)
  | createDirectory (path : String) (fault : FileFault)
  | write (path : String) (fault : FileFault)
  deriving DecidableEq, Repr

namespace GenerateError

/-- What an error comes from, in words. -/
def cause : GenerateError → String
  | .binding _ cause => cause.message
  | .createDirectory _ fault | .write _ fault => fault.message

/-- An error in words. -/
def message : GenerateError → String
  | .binding name cause => s!"cannot generate binding for '{name.text}': {cause.message}"
  | .createDirectory path fault => s!"failed to create directory {path}: {fault.message}"
  | .write path fault => s!"failed to write {path}: {fault.message}"

end GenerateError

namespace Output

/-- The path of the output directory. -/
def place (o : Output) : Path := FileTree.destination o.working o.written

/-- A written path with a name below it. -/
def joined (text name : String) : String :=
  match text.toList.getLast? with
  | none | some '/' => text ++ name
  | some _ => text ++ "/" ++ name

/-- A path below the output directory as it is reported. -/
def report (o : Output) (below : Path) : String := below.foldl joined o.written

/-- The directories of the package that a type is in, from the output directory. -/
def packageSteps (t : TypeName) : Path :=
  match t.package? with
  | some package => (Text.segments '.' package.toList).map String.ofList
  | none => []

/-- A file name with `tmp` in the place of its last extension. -/
def temporaryName (name : String) : String :=
  match Text.splitLast? '.' name.toList with
  | some (front, _) => String.ofList front ++ ".tmp"
  | none => name ++ ".tmp"

end Output

end BindingCompiler
