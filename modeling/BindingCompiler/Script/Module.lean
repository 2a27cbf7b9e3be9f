import BindingCompiler.Script.Evaluation
import BindingCompiler.Script.Parser
import BindingCompiler.Text.Split

/-!
# `BindingCompiler.Script.Module`: modules of a script, and whole scripts

A module is looked for under a path: a list of file names, separated by
semicolons, in which its name takes the place of `?` and a slash that of
each point in the name. It runs when it is required first; from then on
its value is kept, unless that is `false`.
-/

set_option autoImplicit false

namespace BindingCompiler.Script

open Text

/-- Where the modules of a script are. -/
structure Library where
  /-- The path that modules are looked for under at the start. -/
  path : List UInt8
  /-- What is in a file, if there is one: its content, or why it cannot be read. -/
  read : List UInt8 → Option (Except String (List UInt8))

namespace Library

/-- The path that every script has. -/
def standardPath : List UInt8 :=
  encode ("/usr/local/share/lua/5.4/?.lua;/usr/local/share/lua/5.4/?/init.lua;"
    ++ "/usr/local/lib/lua/5.4/?.lua;/usr/local/lib/lua/5.4/?/init.lua;./?.lua;./?/init.lua")

/-- The path with the modules of a directory in front. -/
def pathFor (directory : List UInt8) : List UInt8 :=
  directory ++ encode "/?.lua;" ++ directory ++ encode "/?/init.lua;" ++ standardPath

/-- The library that has no files. The working directory and the root are
there, but they cannot be read. -/
def bare : Library where
  path := standardPath
  read := fun file =>
    if !file.isEmpty && file.all fun b => b == 0x2E || b == 0x2F then
      some (.error "Is a directory")
    else none

/-- The file names that a module can have, in the order in which they are
tried. The name is put in first, so semicolons in it separate, too. -/
def candidates (path name : List UInt8) : List (List UInt8) :=
  let name := name.map fun b => if b = 0x2E then 0x2F else b
  segments 0x3B (path.flatMap fun b => if b = 0x3F then name else [b])

/-- The first file of a module that is there. -/
def find? (lib : Library) (path name : List UInt8) :
    Option (List UInt8 × Except String (List UInt8)) :=
  (candidates path name).findSome? fun file => (lib.read file).map fun content => (file, content)

/-- The error of a module that is not found. -/
def notFound (path name : List UInt8) : List UInt8 :=
  encode "module '" ++ name ++ encode "' not found:\n\tno field package.preload['" ++ name
    ++ encode "']"
    ++ (candidates path name).flatMap (fun file => encode "\n\tno file '" ++ file ++ encode "'")
    ++ encode "\n\t\n\tcan't load C modules in safe mode"

end Library

/-! ### Modules -/

/-- The program text of a file: without a byte order mark, and without a
first line that begins with `#`. -/
def programText (content : List UInt8) : List UInt8 :=
  let content :=
    match content with
    | 0xEF :: 0xBB :: 0xBF :: rest => rest
    | content => content
  match content with
  | 0x23 :: rest => rest.dropWhile (· != 0x0A)
  | content => content

/-- The error of a file that is no program. -/
def loadError (name file : List UInt8) (problem : List UInt8) : List UInt8 :=
  encode "error loading module '" ++ name ++ encode "' from file '" ++ file ++ encode "':\n\t"
    ++ problem

/-- The program in the file of a module, or the problem with it, where
parts of it can nest `levels` deep. -/
def moduleProgram (levels : Nat) (trace : Trace) (file : List UInt8) :
    Except String (List UInt8) → Except (List UInt8) Program
  | .error reason => .error (encode "cannot read " ++ file ++ encode s!": {reason}")
  | .ok content =>
    match Program.ofSource levels (programText content) with
    | .ok p => .ok p
    | .error .malformed => .error (file ++ encode ": syntax error")
    | .error .tooDeep => .error (traced trace tooManyCalls)

/-- The path that modules are looked for under. -/
def searchPath : Run (Option (List UInt8)) := do
  match ← readTable (← get).package (.ofText "path") with
  | .string path => return some path
  | v => return v.numberText?.map encode

/-- The values of a module that has run: its own, and the file it came from. -/
def moduleValues (name file : List UInt8) (results : List Value) : Run (List Value) := do
  let loaded := (← get).loaded
  let value ←
    match first results, ← readTable loaded (.string name) with
    | .nil, .nil => pure (.boolean true)
    | .nil, kept => pure kept
    | v, _ => pure v
  writeTable loaded (.string name) value
  return [value, .string file]

/-- Requires a module, where `levels` further calls can nest. -/
def requireModule (lib : Library) (levels : Nat) (trace : Trace) (name : List UInt8) :
    Run (List Value) := do
  let kept ← readTable (← get).loaded (.string name)
  if kept.isTrue then return [kept]
  match levels with
  | 0 => throw (.raised tooManyCalls trace)
  | levels + 1 =>
    -- The search is a call, and reading what it finds is part of it.
    let inside := .native none :: trace
    let path ←
      match ← searchPath with
      | some path => pure path
      | none => raise levels inside (encode "'package.path' must be a string")
    match lib.find? path name with
    | none =>
      let caller := ((trace.drop 1).map Frame.position).headD []
      raise (levels + 1) trace (caller ++ Library.notFound path name)
    | some (file, content) =>
      match moduleProgram levels inside file content with
      | .error problem => raise levels inside (loadError name file problem)
      | .ok p =>
        let results ← p.run
          { source := shortName (0x40 :: file)
            callers := trace
            levels
            require := requireModule lib levels }
        moduleValues name file results

/-! ### Scripts -/

/-- How many calls can nest in a program that is run from outside. -/
def outerLevels : Nat := callLimit - 2

/-- How deep the parts of a program can nest that is read from outside. -/
def outerDepth : Nat := callLimit - 1

/-- Runs a program from outside; gives the manifest of its declarations. -/
def Program.manifest (lib : Library) (name : List UInt8) (p : Program) :
    Except ScriptError Manifest :=
  let run := p.run
    { source := shortName name
      callers := []
      levels := outerLevels
      require := requireModule lib outerLevels }
  (run.run (.initial lib.path)).map fun out => out.2.manifest

/-- The error that a fault of the source is. -/
def ParseFault.error : ParseFault → ScriptError
  | .malformed => .malformed
  | .tooDeep => .raised tooManyCalls []

/-- The manifest of a script; `name` is what its source is called. -/
def evaluate (source name : String) : Except ScriptError Manifest :=
  let name := encode name
  match name.idxOf? 0 with
  | some i =>
    .error (.raised (encode s!"invalid name: nul byte found in provided data at position: {i}") [])
  | none =>
    match Program.ofSource outerDepth (encode source) with
    | .ok p => p.manifest .bare name
    | .error fault => .error fault.error

end BindingCompiler.Script
