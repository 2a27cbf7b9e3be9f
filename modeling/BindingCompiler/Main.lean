import BindingCompiler.CommandLine.Run

/-!
# `BindingCompiler.Main`: the program

The program reads the files that its command line can touch, runs the
command on them and writes what has changed.
-/

set_option autoImplicit false

namespace BindingCompiler.Main

/-- How many directories deep files are read. -/
def depthLimit : Nat := 32

/-- Reads what is at a path and, `depth` directories deep, below it.
What cannot be read is left out. Neither packages nor modules are in
directories with a point in their name, so those are not entered. -/
def readBelow (wanted : String → Bool) : Nat → Path → FileTree → IO FileTree
  | depth, path, files =>
    try
      let name := path.getLastD ""
      let place ← IO.FS.realPath path.text
      if ← place.isDir then
        let files := files.set path .directory
        match depth with
        | 0 => return files
        | depth + 1 =>
          if name.contains '.' then return files
          (← place.readDir).foldlM (fun files entry =>
            readBelow wanted depth (path ++ [entry.fileName]) files) files
      else
        let content ← if wanted name then IO.FS.readBinFile place else pure .empty
        return files.set path (.file content.toList)
    catch _ => return files

/-- The paths that a written path leads through. -/
def way (working : Path) (written : String) : List Path :=
  let steps := FileTree.steps written
  (List.range (steps.length + 1)).map fun n =>
    FileTree.destinationFrom (FileTree.startOf written working) (steps.take n)

/-- Reads the directories on the way to a path, and the path itself. -/
def readWay (working : Path) (written : String) (files : FileTree) : IO FileTree :=
  (way working written).foldlM (fun files path =>
    readBelow (fun _ => true) 0 path files) files

/-- Reads the modules below a directory. -/
def readModules : Path → FileTree → IO FileTree :=
  readBelow (fun name => name.endsWith ".lua") depthLimit

/-- Reads what a command can touch: its configuration with the modules
beside it, and its output directory. -/
def readFor (command : CommandLine.Command) (working : Path) : IO FileTree := do
  let files ← readWay [] (Path.text working) .empty
  let files ← match command.config? with
    | some config => do
      let files ← readModules ["usr", "local", "share", "lua"] files
      let files ← readModules (FileTree.destination working config).dropLast files
      readWay working config files
    | none => pure files
  match command.out? with
  | some out => do
    readBelow (fun _ => true) depthLimit (FileTree.destination working out)
      (← readWay working out files)
  | none => return files

/-- Writes a file beside its place and then moves it there. -/
def replaceFile (path : Path) (content : List UInt8) : IO Unit := do
  let temporary : Path := path.dropLast ++ [Output.temporaryName (path.getLastD "")]
  IO.FS.writeBinFile temporary.text ⟨content.toArray⟩
  IO.FS.rename temporary.text path.text

/-- Writes the files and directories that are new or different. -/
def writeChanges (old new : FileTree) : IO Unit := do
  for (path, entry) in new.below [] do
    if old.get? path != some entry then
      match entry with
      | .directory => IO.FS.createDirAll path.text
      | .file content => replaceFile path content

/-- Prints how a command line ended; gives the exit status. -/
def report (o : CommandLine.Outcome) : IO UInt32 := do
  (← IO.getStdout).putStr o.output
  (← IO.getStderr).putStr o.errors
  return UInt32.ofNat o.status

/-- Runs a command line. -/
def run (words : List String) : IO UInt32 := do
  match CommandLine.Invocation.parse words with
  | .error interruption => report interruption.outcome
  | .ok invocation =>
    let working := FileTree.destination [] (← IO.currentDir).toString
    let files ← readFor invocation.command working
    let (outcome, changed) := invocation.finish ⟨files, working, "", ""⟩
    writeChanges files changed
    report outcome

end BindingCompiler.Main

/-- The program. -/
def main (words : List String) : IO UInt32 := BindingCompiler.Main.run words
