import BindingCompiler.Declaration.Basic
import BindingCompiler.Registry.Builtin
import BindingCompiler.Script.Error

/-!
# `BindingCompiler.Script.World`: what a running script changes

Scripts change the tables of the store and the manifest that their
declarations go into. At the start the globals hold the table `sento`,
with the declaring functions and the names of the built-in kinds, and
the libraries that the language comes with. The modules that are there
already, these libraries among them, are kept in a table by name.
-/

set_option autoImplicit false

namespace BindingCompiler.Script

open Text

/-- What a running script changes. -/
structure World where
  store : Store
  /-- The table of the global variables. -/
  globals : TableRef
  /-- The library of strings, whose fields every string has. -/
  strings : TableRef
  /-- The library of modules, which holds the path that they are looked for under. -/
  package : TableRef
  /-- The values of the modules that are there. -/
  loaded : TableRef
  manifest : Manifest

/-! ### Libraries -/

/-- Entries under names. -/
def named (entries : List (String × Value)) : Entries :=
  entries.map fun entry => (.ofText entry.1, entry.2)

/-- Functions that play no part in declarations, under their names. -/
def idleFunctions (names : List String) : List (String × Value) :=
  names.map fun name => (name, .function .idle)

/-- The functions of the language, but for those of a library. -/
def baseFunctions : List (String × Value) :=
  [("error", .function .raise), ("require", .function .require)]
    ++ idleFunctions
      ["assert", "collectgarbage", "dofile", "getmetatable", "ipairs", "load", "loadfile",
        "next", "pairs", "pcall", "print", "rawequal", "rawget", "rawlen", "rawset", "select",
        "setmetatable", "tonumber", "tostring", "type", "warn", "xpcall"]

/-- The functions on strings. -/
def stringLibrary : List (String × Value) :=
  idleFunctions
    ["byte", "char", "dump", "find", "format", "gmatch", "gsub", "len", "lower", "match", "pack",
      "packsize", "rep", "reverse", "sub", "unpack", "upper"]

/-- The numbers and functions of mathematics. -/
def mathLibrary : List (String × Value) :=
  [("pi", .float (.scaled false 3141592653589793 10 (-15))), ("huge", .float (.infinity false)),
    ("maxinteger", .integer Int64.maxValue), ("mininteger", .integer Int64.minValue)]
    ++ idleFunctions
      ["abs", "acos", "asin", "atan", "ceil", "cos", "deg", "exp", "floor", "fmod", "log", "max",
        "min", "modf", "rad", "random", "randomseed", "sin", "sqrt", "tan", "tointeger", "type",
        "ult"]

/-- The libraries that only have functions, by name. -/
def functionLibraries : List (String × List (String × Value)) :=
  [("coroutine", idleFunctions
      ["close", "create", "isyieldable", "resume", "running", "status", "wrap", "yield"]),
    ("io", idleFunctions
      ["close", "flush", "input", "lines", "open", "output", "popen", "read", "tmpfile", "type",
        "write"]),
    ("math", mathLibrary),
    ("os", idleFunctions
      ["clock", "date", "difftime", "execute", "exit", "getenv", "remove", "rename",
        "setlocale", "time", "tmpname"]),
    ("table", idleFunctions ["concat", "insert", "move", "pack", "remove", "sort", "unpack"]),
    ("utf8", ("charpattern", .string (encode "[\x00-\x7F" ++ [0xC2, 0x2D, 0xFD] ++ encode "][" ++
      [0x80, 0x2D, 0xBF] ++ encode "]*")) ::
        idleFunctions ["char", "codepoint", "codes", "len", "offset"])]

namespace World

/-- A table for the entries of each name. -/
def allocateAll (libraries : List (String × List (String × Value))) (s : Store) :
    List (String × Value) × Store :=
  libraries.foldl (fun (tables, s) library =>
    let (ref, s) := s.allocate (named library.2)
    (tables ++ [(library.1, .table ref)], s)) ([], s)

/-- The world at the start; modules are looked for under the path. -/
def initial (path : List UInt8) : World :=
  let kinds := Registry.builtinKinds.map fun kind => (kind.name, Value.ofText kind.name)
  let (kinds, s) := Store.empty.allocate (named kinds)
  let functions := Form.all.map fun form => (form.word, Value.function (.declare form))
  let (sento, s) := s.allocate (named (("kinds", .table kinds) :: functions))
  let (loaded, s) := s.allocate []
  let (preload, s) := s.allocate []
  let (package, s) := s.allocate (named
    ([("path", .string path), ("config", .ofText "/\n;\n?\n!\n-\n"),
      ("loaded", .table loaded), ("preload", .table preload)] ++ idleFunctions ["searchpath"]))
  let (strings, s) := s.allocate (named stringLibrary)
  let (libraries, s) := allocateAll functionLibraries s
  let libraries := [("package", .table package), ("string", .table strings)] ++ libraries
  let (globals, s) := s.allocate (named
    ([("sento", .table sento), ("_VERSION", .ofText "Lua 5.4")] ++ baseFunctions ++ libraries))
  let environment : String × Value := ("_G", .table globals)
  let s := s.write globals (.ofText environment.1) environment.2
  let s := (environment :: libraries).foldl (fun s library =>
    s.write loaded (.ofText library.1) library.2) s
  { store := s, globals, strings, package, loaded, manifest := .empty }

end World

/-! ### Running -/

/-- A computation in a world, which an error stops. -/
abbrev Run (α : Type) := StateT World (Except ScriptError) α

/-- Raises an error, where the calls have not returned and `levels` further ones can nest. -/
def raise {α : Type} (levels : Nat) (trace : Trace) (message : List UInt8) : Run α :=
  throw (.raised (arriving levels trace message) trace)

/-- A new table. -/
def newTable : Run TableRef := do
  let w ← get
  let (ref, store) := w.store.allocate []
  set { w with store }
  return ref

/-- The value under a key of a table. -/
def readTable (ref : TableRef) (key : Value) : Run Value := return (← get).store.read ref key

/-- Writes a value under a key of a table. -/
def writeTable (ref : TableRef) (key value : Value) : Run Unit :=
  modify fun w => { w with store := w.store.write ref key value }

/-- Takes a declaration of a form. -/
def declare (form : Form) (trace : Trace) (v : Value) : Run Unit := do
  let w ← get
  match w.manifest.declare w.store form v with
  | .ok manifest => set { w with manifest }
  | .error e => throw (.declaration e trace)

end BindingCompiler.Script
