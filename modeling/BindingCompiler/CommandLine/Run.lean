import BindingCompiler.CommandLine.Command
import BindingCompiler.CommandLine.Session
import BindingCompiler.Registry.Builtin

/-!
# `BindingCompiler.CommandLine.Run`: running a command line

A command either ends well or fails. The exit status is 0, 1 for a
failure, and 2 for a command line that is none.

* `run_files_of_interrupted`: a command line that is none leaves the
  files as they are.
-/

set_option autoImplicit false

namespace BindingCompiler.CommandLine

open Session

/-! ### Commands -/

/-- The project of a configuration that has to be there. -/
def openProject (written : String) : Session Project := do
  let c ← get
  let config ← expect (c.files.locate c.working written) fun _ => .noConfig written
  expect (Project.load c.files c.working config.text) (Failure.project config)

/-- The registry of a configuration, or that of the built-in kinds. -/
def openRegistry : Option String → Session Registry
  | some written => return (← openProject written).registry
  | none => expect Registry.builtin Failure.builtin

/-- A text with blanks behind it, so that it has at least `width` characters. -/
def padded (width : Nat) (text : String) : String :=
  text ++ String.ofList (List.replicate (width - text.length) ' ')

/-- Lists the kinds with their families. -/
def listKinds (r : Registry) : Format → Session Unit
  | .json =>
    printJson (.ofList (fun k => .object
      [("class", .string k.2.word), ("kind", .string k.1.name)]) r.kindList)
  | .text => do
    info (countOf r.size "binding kind" "binding kinds" ++ " registered")
    let width := (r.kindList.map fun k => k.1.name.utf8ByteSize).foldl max 0
    r.kindList.forM fun k => print s!"  {padded width k.1.name}  {k.2.word}"

/-- Prints how a listener kind is attached and called. -/
def describeListener (l : ResolvedListener) : Session Unit := do
  fact "Target" "method"
  fact "Owner" l.spec.owner.text
  fact "Listener" l.spec.listener.text
  fact "Setter" l.setter.declaration
  fact "Unsetter" l.spec.unsetter
  fact "Callback" l.callback.declaration
  l.stubs.forM fun stub => fact "Stub" stub.declaration

/-- Prints what a kind stands for. -/
def describeText (kind : Kind) (d : Descriptor) : Session Unit := do
  success s!"{kind.name} ({d.family.word} binding)"
  match d with
  | .view =>
    fact "Target" "field"
    fact "Value" "android.view.View or an interface"
  | .resource variants =>
    fact "Target" "field"
    print "  Variants:"
    variants.forM fun v => print s!"    {v.valueType.text} → Resources#{v.accessor}(int)"
  | .listener l => describeListener l

/-- What a kind stands for, as JSON. -/
def describeJson (kind : Kind) (d : Descriptor) : Json :=
  let base : List (String × Json) :=
    [("kind", .string kind.name), ("class", .string d.family.word)]
  match d with
  | .view => Json.sortKeys (.object base)
  | .resource variants =>
    Json.sortKeys (.object (base ++ [("variants", .ofList ResourceSpec.toJson variants)]))
  | .listener l => Json.sortKeys (.object (base ++ [("listener", l.toJson)]))

/-- Says what a kind stands for. -/
def describe (r : Registry) (kind : Kind) (format : Format) : Session Unit := do
  let d ← expect (r.descriptor kind) Failure.kind
  match format with
  | .json => printJson (describeJson kind d)
  | .text => describeText kind d

/-- What is wrong with the marked classes of a project, class by class. -/
def failures (p : Project) : List (TypeName × BindingError) :=
  p.manifest.classes.flatMap fun c => (p.registry.validateClass c).map fun e => (c.name, e)

/-- The number of markers of a project. -/
def markerCount (p : Project) : Nat :=
  p.manifest.classes.foldl (fun n c => n + c.markerCount) 0

/-- The results of a check, as JSON. -/
def checkJson (p : Project) : Json :=
  .object
    [("classes", .int p.manifest.classes.length),
      ("markers", .int (markerCount p)),
      ("failures", .ofList (fun f => .object
        [("class", .string f.1.text), ("error", .string f.2.message)]) (failures p))]

/-- Prints the results of a check. -/
def checkText (p : Project) (isVerbose : Bool) : Session Unit := do
  if p.manifest.classes.isEmpty then warning "No marked classes declared"
  if isVerbose then
    p.manifest.classes.forM fun c => do
      if (p.registry.validateClass c).isEmpty then
        info (c.name.text ++ ": " ++ countOf c.markerCount "marker" "markers")
  (failures p).forM fun f => problem s!"{f.1.text}: {f.2.message}"
  if (failures p).isEmpty then
    success (countOf p.manifest.classes.length "class" "classes" ++ " checked, "
      ++ countOf (markerCount p) "marker" "markers")

/-- Validates the marked classes of a project. -/
def check (p : Project) (isVerbose : Bool) (format : Format) : Session Unit := do
  match format with
  | .json => printJson (checkJson p)
  | .text => checkText p isVerbose
  if !(failures p).isEmpty then throw (.bindings (failures p).length)

/-- A generated file, as JSON. -/
def generatedJson (f : GeneratedFile) : Json :=
  .object [("path", .string f.path), ("changed", .bool f.isChanged)]

/-- Writes the bindings of a project. -/
def generate (p : Project) (out : String) (withPlans : Bool) (format : Format) :
    Session Unit := do
  let classes := p.manifest.classes
  if classes.isEmpty then
    warning "No marked classes declared; only the factory will be written"
  let output : Output := ⟨out, (← get).working, withPlans⟩
  let files ← generation (output.generateAll p.registry classes)
  match format with
  | .json => printJson (.ofList generatedJson files)
  | .text =>
    let changed := files.countP GeneratedFile.isChanged
    success ("Generated " ++ countOf files.length "file" "files" ++ " for "
      ++ countOf classes.length "class" "classes")
    fact "Written" (toString changed)
    fact "Unchanged" (toString (files.length - changed))
    fact "Output" out

/-- Runs a command. -/
def Invocation.run (i : Invocation) : Session Unit := do
  match i.command with
  | .kinds config? => listKinds (← openRegistry config?) i.format
  | .describe kind config? => describe (← openRegistry config?) kind i.format
  | .check config => check (← openProject config) i.isVerbose i.format
  | .generate config out withPlans => generate (← openProject config) out withPlans i.format

/-! ### Command lines -/

/-- How a command line ends. -/
structure Outcome where
  status : Nat
  output : String
  errors : String
  deriving DecidableEq, Repr

/-- What the program is called. -/
def programName : String := "sento"

/-- The version of the program. -/
def programVersion : String := "0.3.0"

/-- How the program is used. -/
def usage : String :=
  String.intercalate "\n" [
    "sento - Android view, resource and listener binding compiler",
    "",
    "Usage: sento [OPTIONS] <COMMAND>",
    "",
    "Commands:",
    "  kinds [-c <CONFIG>]            List registered binding kinds",
    "  describe <KIND> [-c <CONFIG>]  Describe a binding kind",
    "  check [CONFIG]                 Validate every marked class of a configuration",
    "  generate [CONFIG] -o <OUT> [--plan]",
    "                                 Generate binding sources for every marked class",
    "  help                           Print help",
    "",
    "Options:",
    "  -v, --verbose          Enable verbose output",
    "      --format <FORMAT>  Output format [default: text] [possible values: text, json]",
    "  -h, --help             Print help",
    "  -V, --version          Print version",
    ""]

/-- What an interruption prints. -/
def Interruption.outcome : Interruption → Outcome
  | .help => ⟨0, usage, ""⟩
  | .version => ⟨0, s!"{programName} {programVersion}\n", ""⟩
  | .misuse fault => ⟨2, "", s!"error: {fault.message}\n\n{usage}"⟩

/-- How a command ends from a console. -/
def Invocation.finish (i : Invocation) (c : Console) : Outcome × FileTree :=
  match i.run.run.run c with
  | (.ok (), c) => (⟨0, c.output, c.errors⟩, c.files)
  | (.error failure, c) =>
    (⟨1, c.output, c.errors ++ String.join (failure.report.map (· ++ "\n"))⟩, c.files)

/-- Runs a command line on files. -/
def run (files : FileTree) (working : Path) (words : List String) : Outcome × FileTree :=
  match Invocation.parse words with
  | .ok i => i.finish { files, working }
  | .error interruption => (interruption.outcome, files)

/-- A command line that is none leaves the files as they are. -/
theorem run_files_of_interrupted {files : FileTree} {working : Path} {words : List String}
    {interruption : Interruption} (h : Invocation.parse words = .error interruption) :
    (run files working words).2 = files := by
  unfold run
  rw [h]

end BindingCompiler.CommandLine
