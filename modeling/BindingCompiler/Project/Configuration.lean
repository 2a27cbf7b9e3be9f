import BindingCompiler.Files.Location
import BindingCompiler.Script.Module

/-!
# `BindingCompiler.Project.Configuration`: configuration files

A configuration is a script in a file. It can require the modules that
stand beside it.
-/

set_option autoImplicit false

namespace BindingCompiler

/-- Why a configuration gives no manifest. -/
inductive ConfigurationError where
  /-- There is no such file. -/
  | unresolved (written : String) (fault : FileFault)
  | unread (path : Path) (fault : FileFault)
  | script (error : Script.ScriptError)
  deriving DecidableEq, Repr

/-- An error in words. -/
def ConfigurationError.message : ConfigurationError → String
  | .unresolved written fault => s!"cannot resolve '{written}': {fault.message}"
  | .unread path fault => s!"cannot read '{path.text}': {fault.message}"
  | .script error => error.message

/-- An error in words, with the calls that led to it if a script was running. -/
def ConfigurationError.report : ConfigurationError → String
  | .script error => error.report
  | e => e.message

namespace Configuration

/-- What is in a module's file, if there is one. A directory is there, but
it cannot be read. -/
def moduleContent (t : FileTree) (working : Path) (file : List UInt8) :
    Option (Except String (List UInt8)) :=
  match Text.decode file with
  | .error _ => none
  | .ok written =>
    match (t.locate working written).bind t.read with
    | .ok content => some (.ok content)
    | .error .isDirectory => some (.error "Is a directory")
    | .error _ => none

/-- The directory of a path as it stands in the path of modules. -/
def directoryText (path : Path) : List UInt8 :=
  (Text.encode (Path.text path.dropLast)).map fun b => if b = 0x5C then 0x2F else b

/-- The modules beside a configuration. -/
def library (t : FileTree) (working path : Path) : Script.Library where
  path := Script.Library.pathFor (directoryText path)
  read := moduleContent t working

/-- The manifest of a configuration. -/
def evaluate (t : FileTree) (working : Path) (written : String) :
    Except ConfigurationError Manifest :=
  match t.locate working written with
  | .error fault => .error (.unresolved written fault)
  | .ok path =>
    match t.readText path with
    | .error fault => .error (.unread path fault)
    | .ok source =>
      let program : Except Script.ScriptError Script.Program :=
        match Script.Program.ofConfiguration Script.outerDepth (Text.encode source) with
        | .ok p => .ok p
        | .error fault => .error fault.error
      let manifest := program.bind fun p =>
        p.manifest (library t working path) (0x40 :: Text.encode path.text)
      manifest.mapError .script

end Configuration

end BindingCompiler
