import BindingCompiler.Output.Basic
import BindingCompiler.Plan.Build
import BindingCompiler.Plan.Json
import BindingCompiler.Json.Printer
import BindingCompiler.Source.Render

/-!
# `BindingCompiler.Output.Writer`: writing generated files

A file that holds the generated text already is left alone. Otherwise
the text is written beside it and the new file then takes its place, so
that there is never a part of a file. When an error stops the
generation, files and directories that were made before stay.

Generating everything plans every class first: a class without a plan
leaves the tree as it was.
-/

set_option autoImplicit false

namespace BindingCompiler

/-- A computation on a file tree that an error can stop. -/
abbrev Generation (α : Type) := ExceptT GenerateError (StateM FileTree) α

namespace Output

/-- Makes a directory below the output directory, and those above it. -/
def makeDirectory (o : Output) (below : Path) : Generation Unit := do
  let front := FileTree.startOf o.written o.working
  let (t, fault?) := (← get).makeDirectories front (FileTree.steps o.written ++ below)
  set t
  match fault? with
  | some fault => throw (.createDirectory (o.report below) fault)
  | none => return ()

/-- Changes the tree for a file; a fault is reported for the file. -/
def change (o : Output) (below : Path) (f : FileTree → Except FileFault FileTree) :
    Generation Unit := do
  match f (← get) with
  | .ok t => set t
  | .error fault => throw (.write (o.report below) fault)

/-- Writes a file, unless it holds exactly the text. -/
def writeFile (o : Output) (directory : Path) (name text : String) : Generation GeneratedFile := do
  let below := directory ++ [name]
  let path := o.report below
  let target := o.place ++ below
  let temporary := o.place ++ directory ++ [temporaryName name]
  -- What is there but cannot be read is not overwritten.
  match (← get).readText target with
  | .ok old => if old = text then return ⟨path, false⟩
  | .error .missing => pure ()
  | .error fault => throw (.write path fault)
  o.change below fun t => t.write temporary (Text.encode text)
  o.change below fun t => t.move temporary target
  return ⟨path, true⟩

/-- Writes the binding of a plan, and the plan itself if plans are wanted. -/
def writePlan (o : Output) (p : Plan) : Generation (List GeneratedFile) := do
  let directory := packageSteps p.binding
  o.makeDirectory directory
  let source ← o.writeFile directory (p.binding.localName ++ ".java") (Source.render p)
  if !o.withPlans then return [source]
  let plan ← o.writeFile directory (p.binding.localName ++ ".plan.json") p.toJson.pretty
  return [source, plan]

/-- Writes the factory of some plans. -/
def writeFactory (o : Output) (plans : List Plan) : Generation GeneratedFile := do
  let directory := packageSteps factoryType
  o.makeDirectory directory
  o.writeFile directory (factoryType.localName ++ ".java") (Source.renderFactory plans)

/-- The plan of a class. -/
def plan (r : Registry) (c : MarkedClass) : Except GenerateError Plan :=
  match Plan.build r c with
  | .ok p => .ok p
  | .error cause => .error (.binding c.name cause)

/-- Generates the binding of one class. -/
def generate (o : Output) (r : Registry) (c : MarkedClass) : Generation (List GeneratedFile) := do
  o.writePlan (← plan r c)

/-- Generates the bindings of some classes and the factory that lists them. -/
def generateAll (o : Output) (r : Registry) (classes : List MarkedClass) :
    Generation (List GeneratedFile) := do
  let plans ← (classes.mapM (plan r) : Except GenerateError (List Plan))
  let files ← plans.mapM o.writePlan
  return files.flatten ++ [← o.writeFactory plans]

end Output

end BindingCompiler
