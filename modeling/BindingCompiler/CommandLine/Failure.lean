import BindingCompiler.Output.Basic
import BindingCompiler.Project.Basic

/-!
# `BindingCompiler.CommandLine.Failure`: why a command fails

A failure is reported with what it comes from, down to the first cause.
Several causes are numbered; the further lines of a cause are indented
as far as its first.
-/

set_option autoImplicit false

namespace BindingCompiler.CommandLine

/-- A number of things. -/
def countOf (n : Nat) (singular plural : String) : String :=
  if n = 1 then s!"{n} {singular}" else s!"{n} {plural}"

/-- Why a command fails. -/
inductive Failure where
  | noConfig (written : String)
  | project (config : Path) (error : ProjectError)
  /-- The built-in kinds do not fit their types. -/
  | builtin (error : RegistryError)
  | kind (error : RegistryError)
  /-- Some markers are wrong. -/
  | bindings (count : Nat)
  | generation (error : GenerateError)
  deriving DecidableEq, Repr

namespace Failure

/-- A failure in words. -/
def message : Failure → String
  | .noConfig written => s!"Config file not found: {written}"
  | .project config error => s!"Failed to evaluate config {config.text}: {error.message}"
  | .builtin _ => "Failed to build the built-in registry"
  | .kind error => error.message
  | .bindings count => countOf count "binding error" "binding errors" ++ " found"
  | .generation _ => "Failed to generate bindings"

/-- What a failure comes from, the nearest first. -/
def causes : Failure → List String
  | .noConfig _ | .project _ _ | .kind _ | .bindings _ => []
  | .builtin error => [error.message]
  | .generation error => [error.message, error.cause]

/-- A text with a label before its first line and its other lines indented. -/
def labelled (label : String) (text : String) : String :=
  let indentation := String.ofList (List.replicate label.length ' ')
  label ++ String.intercalate ("\n" ++ indentation)
    ((Text.segments '\n' text.toList).map String.ofList)

/-- The label of a numbered cause. -/
def numberLabel (i : Nat) : String :=
  let number := toString i
  String.ofList (List.replicate (5 - number.length) ' ') ++ number ++ ": "

/-- The lines for the causes of a failure. -/
def causeLines : List String → List String
  | [] => []
  | [cause] => ["", "Caused by:", labelled "    " cause]
  | several =>
    ["", "Caused by:"] ++ several.zipIdx.map fun cause => labelled (numberLabel cause.2) cause.1

/-- The lines that report a failure. -/
def report (f : Failure) : List String := s!"Error: {f.message}" :: causeLines f.causes

end Failure

end BindingCompiler.CommandLine
