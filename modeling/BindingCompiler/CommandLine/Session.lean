import BindingCompiler.CommandLine.Failure
import BindingCompiler.Output.Writer

/-!
# `BindingCompiler.CommandLine.Session`: what a command prints and writes

A command works on a tree of files and prints lines, results apart from
warnings and errors. What it printed and wrote before it fails stays.
-/

set_option autoImplicit false

namespace BindingCompiler.CommandLine

/-- The files that a command works on, and what it has printed. -/
structure Console where
  files : FileTree
  /-- The working directory. -/
  working : Path
  output : String := ""
  errors : String := ""

/-- A part of a command. -/
abbrev Session (α : Type) := ExceptT Failure (StateM Console) α

namespace Session

/-- Prints a line of results. -/
def print (line : String) : Session Unit :=
  modify fun c => { c with output := c.output ++ line ++ "\n" }

/-- Prints a line of warnings and errors. -/
def printError (line : String) : Session Unit :=
  modify fun c => { c with errors := c.errors ++ line ++ "\n" }

/-- Prints that something went well. -/
def success (text : String) : Session Unit := print s!"✓ {text}"

/-- Prints something to know. -/
def info (text : String) : Session Unit := print s!"• {text}"

/-- Prints a fact by its label. -/
def fact (label value : String) : Session Unit := print s!"  {label}: {value}"

/-- Prints that something is doubtful. -/
def warning (text : String) : Session Unit := printError s!"⚠ {text}"

/-- Prints that something is wrong. -/
def problem (text : String) : Session Unit := printError s!"✗ {text}"

/-- Prints JSON. -/
def printJson (j : Json) : Session Unit := print j.pretty

/-- Generates files; what was written before an error stays. -/
def generation {α : Type} (g : Generation α) : Session α := do
  let (result, files) := g.run.run (← get).files
  modify fun c => { c with files }
  match result with
  | .ok a => return a
  | .error e => throw (.generation e)

/-- A result, or the failure of the command. -/
def expect {ε α : Type} (result : Except ε α) (failure : ε → Failure) : Session α :=
  match result with
  | .ok a => return a
  | .error e => throw (failure e)

end Session

end BindingCompiler.CommandLine
