import BindingCompiler.Script.Numeral
import BindingCompiler.Script.Program
import BindingCompiler.Script.World

/-!
# `BindingCompiler.Script.Evaluation`: running programs

An expression has a list of values: a call as many as the function
gives, any other expression one. Only the last one of several
expressions keeps them all; elsewhere the first value counts, or nil.

Errors of the program carry the position of the call or the index they
happen in, and name the variable or field that was called or indexed.
-/

set_option autoImplicit false

namespace BindingCompiler.Script

open Text

/-- What a program runs in. -/
structure Context where
  /-- The name of the source, as it is shown. -/
  source : List UInt8
  /-- The calls that are waiting for the program. -/
  callers : Trace
  /-- How many calls can nest in the program. -/
  levels : Nat
  /-- Runs the module of a name, which is required by a call. -/
  require : (trace : Trace) → (name : List UInt8) → Run (List Value)

/-- The variables of a running program. -/
structure Variables where
  /-- The local ones, the newest first. -/
  locals : List (String × Value)
  /-- The table of the global ones, unless the program has replaced it. -/
  environment : Value

namespace Variables

/-- The value of a local variable. -/
def get (vars : Variables) (name : String) : Value := (vars.locals.lookup name).getD .nil

/-- The variables with new local ones. -/
def declare (vars : Variables) (names : List String) (values : List Value) : Variables :=
  { vars with locals := (names.zip values).reverse ++ vars.locals }

/-- The variables with a new value of a local one. -/
def set (vars : Variables) (name : String) (v : Value) : Variables :=
  let older := vars.locals.dropWhile fun entry => entry.1 != name
  let newer := vars.locals.takeWhile fun entry => entry.1 != name
  { vars with locals := newer ++ (name, v) :: older.drop 1 }

/-- A variable has the value that it was set to. -/
theorem get_set (vars : Variables) (name : String) (v : Value) :
    (vars.set name v).get name = v := by
  have hnewer (l : List (String × Value)) (rest : List (String × Value)) :
      (l.takeWhile (fun entry => entry.1 != name) ++ (name, v) :: rest).lookup name = some v := by
    induction l with
    | nil => simp
    | cons entry l ih =>
        by_cases h : entry.1 = name
        · rw [List.takeWhile_cons_of_neg (by simp [h])]
          simp
        · have hb : (name == entry.1) = false := by simpa using Ne.symm h
          rw [List.takeWhile_cons_of_pos (by simp [h]), List.cons_append, List.lookup_cons, hb]
          exact ih
  unfold set get
  rw [hnewer]
  rfl

end Variables

/-- The first of some values. -/
def first (vs : List Value) : Value := vs.headD .nil

/-- The position of a line. -/
def Context.at_ (c : Context) (line : Nat) : List UInt8 := position c.source line

/-- The calls that have not returned, the program itself at a line. -/
def Context.trace (c : Context) (line : Nat) : Trace := .program (c.at_ line) :: c.callers

/-- The calls that have not returned, a function being called at a line. -/
def Context.traceIn (c : Context) (line : Nat) (name : Option String) : Trace :=
  .native name :: c.trace line

/-- Raises an error at a line. -/
def Context.raiseAt {α : Type} (c : Context) (line : Nat) (message : List UInt8) : Run α :=
  raise c.levels (c.trace line) (c.at_ line ++ message)

/-! ### Names in errors -/

/-- What a value was read from, in brackets after a blank; `word` is its kind. -/
def origin (word : String) (name : List UInt8) : List UInt8 :=
  encode (" (" ++ word ++ " '") ++ name.takeWhile (· != 0) ++ encode "')"

/-- The kind of the fields of an expression. -/
def Expr.fieldWord (object : Expr) : String := if object.isEnvironment then "global" else "field"

/-- Whether a key is the number of an item that an instruction can name. -/
def Expr.isItemName : Expr → Bool
  | .literal (.integer n) => 0 ≤ n && n ≤ 255
  | _ => false

/-- The name of the field under a key, as far as the key shows it. -/
def Expr.fieldName (key : Expr) : List UInt8 :=
  match key with
  | .literal (.string name) => name
  | key => encode (if key.isItemName then "integer index" else "?")

/-- What an expression reads its value from. -/
def Expr.origin : Expr → List UInt8
  | .variable name => Script.origin "local" (encode name)
  | .environment => Script.origin "upvalue" (encode environmentName)
  | .index object key _ =>
    let word := if key.isItemName then "field" else object.fieldWord
    Script.origin word key.fieldName
  | .literal (.string text) => Script.origin "constant" text
  | .grouped inner => inner.origin
  | _ => []

/-- The name that a function is called by. -/
def Expr.calledAs (own : String) : Expr → List UInt8
  | .variable name => encode name
  | .index _ key _ => key.fieldName
  | .grouped inner => inner.calledAs own
  | _ => encode own

/-! ### Operations -/

/-- The error of an operation that a value does not have. -/
def Context.unfit {α : Type} (c : Context) (line : Nat) (operation : String) (v : Value)
    (origin : List UInt8) : Run α :=
  c.raiseAt line
    (encode ("attempt to " ++ operation ++ " a " ++ v.scriptType ++ " value") ++ origin)

/-- The value under a key of a value. -/
def Context.readIndex (c : Context) (line : Nat) (origin : List UInt8) (object key : Value) :
    Run Value := do
  match object with
  | .table ref => readTable ref key
  | .string _ => readTable (← get).strings key
  | v => c.unfit line "index" v origin

/-- Writes under a key of a table, which has to be a key. -/
def Context.writeKey (c : Context) (line : Nat) (ref : TableRef) (key value : Value) :
    Run Unit :=
  match key with
  | .nil => c.raiseAt line (encode "table index is nil")
  | .float x =>
    if x.isNaN then c.raiseAt line (encode "table index is NaN") else writeTable ref key value
  | key => writeTable ref key value

/-- Writes a value under a key of a value. -/
def Context.writeIndex (c : Context) (line : Nat) (origin : List UInt8)
    (object key value : Value) : Run Unit :=
  match object with
  | .table ref => c.writeKey line ref key value
  | v => c.unfit line "index" v origin

/-- The opposite number of a number, or of the one that a string holds. -/
def Context.negate (c : Context) (line : Nat) (origin : List UInt8) (v : Value) : Run Value :=
  match v.toNumber? with
  | some (.integer n) => return .integer (-n)
  | some (.float x) => return .float x.neg
  | _ =>
    match v with
    | .string _ =>
      -- Strings have an operation of their own, which is called.
      raise (c.levels - 1) (c.traceIn line none)
        (c.at_ line ++ encode "attempt to unm a 'string' with a 'string'")
    | v => c.unfit line "perform arithmetic on" v origin

/-- A function that is called. -/
structure Callee where
  /-- The name that everyone knows it by. -/
  own : String
  /-- The name that it is called by. -/
  name : List UInt8

/-- The error of a function that is given an argument of a wrong type. -/
def Context.badArgument {α : Type} (c : Context) (line : Nat) (callee : Callee)
    (position : Nat) (problem : String) : Run α :=
  raise c.levels (c.traceIn line (some callee.own))
    (c.at_ line ++ encode s!"bad argument #{position} to '" ++ callee.name
      ++ encode ("' (" ++ problem ++ ")"))

/-- A value as the message of an error. -/
def messageText (v : Value) : List UInt8 :=
  match v with
  | .string text => text
  | .boolean b => encode (toString b)
  | v => encode (v.numberText?.getD v.scriptType)

/-- The level that an error is raised for: the second argument as a number
of 32 bits, or else one. -/
def Context.errorLevel (c : Context) (line : Nat) (callee : Callee) :
    Option Value → Run Int
  | none | some .nil => return 1
  | some v =>
    match v.toNumber? with
    | some (.integer n) => return n.toInt32.toInt
    | some (.float x) =>
      match Value.exactInteger? x with
      | some n => return n.toInt32.toInt
      | none => c.badArgument line callee 2 "number has no integer representation"
    | _ => c.badArgument line callee 2 ("number expected, got " ++ v.scriptType)

/-- Raises the error that a script asks for. A string is given the
position of the caller at the level, the call itself being at level one. -/
def Context.raiseValue (c : Context) (line : Nat) (callee : Callee) (args : List Value) :
    Run (List Value) := do
  let level ← c.errorLevel line callee args[1]?
  let positions := (c.trace line).map Frame.position
  let message :=
    match first args with
    | .string text =>
      if 0 < level then positions.getD (level.toNat - 1) [] ++ text else text
    | v => messageText v
  raise c.levels (c.traceIn line (some callee.own)) message

/-- Calls a value. -/
def Context.call (c : Context) (line : Nat) (origin : List UInt8)
    (calledAs : String → List UInt8) (f : Value) (args : List Value) : Run (List Value) :=
  match f with
  | .function (.declare form) => do
    declare form (c.traceIn line none) (first args)
    return []
  | .function .raise => c.raiseValue line ⟨"error", calledAs "error"⟩ args
  | .function .require =>
    let callee : Callee := ⟨"require", calledAs "require"⟩
    let require (name : List UInt8) : Run (List Value) :=
      c.require (c.traceIn line (some callee.own)) (name.takeWhile (· != 0))
    match first args with
    | .string name => require name
    | v =>
      match v.numberText? with
      | some text => require (encode text)
      | none =>
        let found := if args.isEmpty then "no value" else v.scriptType
        c.badArgument line callee 1 ("string expected, got " ++ found)
  | .function .idle => return []
  | v => c.unfit line "call" v origin

/-! ### Expressions -/

/-- Writes list items after the first `count` ones. -/
def writeItems (ref : TableRef) (count : Nat) (items : List Value) : Run Unit :=
  items.zipIdx.forM fun item =>
    writeTable ref (.integer (Int64.ofNat (count + item.2 + 1))) item.1

mutual

/-- The values of an expression. -/
def Expr.eval (c : Context) (vars : Variables) : Expr → Run (List Value)
  | .literal v => return [v]
  | .variable name => return [vars.get name]
  | .environment => return [vars.environment]
  | .index object key line => do
    let o := first (← object.eval c vars)
    let k := first (← key.eval c vars)
    return [← c.readIndex line object.origin o k]
  | .call function arguments line => do
    let f := first (← function.eval c vars)
    let args ← Expr.evalList c vars arguments
    c.call line function.origin function.calledAs f args
  | .table items => do
    let ref ← newTable
    Item.evalList c vars ref 0 [] items
    return [.table ref]
  | .grouped inner => return [first (← inner.eval c vars)]
  | .negate operand line => do
    let v := first (← operand.eval c vars)
    return [← c.negate line operand.origin v]

/-- The values of several expressions, all of the last one's among them. -/
def Expr.evalList (c : Context) (vars : Variables) : List Expr → Run (List Value)
  | [] => return []
  | e :: rest => do
    let vs ← e.eval c vars
    if rest.isEmpty then return vs
    return first vs :: (← Expr.evalList c vars rest)

/-- Fills a new table. `count` list items are written, and `kept` are kept
back: an item under a key of its own is written at once, a list item
with its fellows. -/
def Item.evalList (c : Context) (vars : Variables) (ref : TableRef) (count : Nat)
    (kept : List Value) : List Item → Run Unit
  | [] => writeItems ref count kept
  | item :: rest => do
    -- Only a full row of list items is written before the end.
    let isFull := kept.length == itemsKept
    if isFull then writeItems ref count kept
    let count := if isFull then count + kept.length else count
    let kept := if isFull then [] else kept
    match item with
    | .positional value =>
      let vs ← value.eval c vars
      let vs := if rest.isEmpty then vs else [first vs]
      Item.evalList c vars ref count (kept ++ vs) rest
    | .keyed key value line =>
      let k := first (← key.eval c vars)
      let v := first (← value.eval c vars)
      c.writeKey line ref k v
      Item.evalList c vars ref count kept rest

end

/-! ### Statements -/

/-- As many values as there are places; nil fills up what is missing. -/
def padded (count : Nat) (vs : List Value) : List Value :=
  vs.take count ++ List.replicate (count - vs.length) .nil

/-- A place that a value can be stored in. -/
inductive Place where
  | variable (name : String)
  | environment
  | index (object key : Value) (origin : List UInt8)

/-- The place that a target stands for. -/
def Target.place (c : Context) (vars : Variables) : Target → Run Place
  | .variable name => return .variable name
  | .environment => return .environment
  | .index object key => do
    let o := first (← object.eval c vars)
    let k := first (← key.eval c vars)
    return .index o k object.origin

/-- Stores a value. -/
def Place.store (c : Context) (line : Nat) (vars : Variables) (v : Value) :
    Place → Run Variables
  | .variable name => return vars.set name v
  | .environment => return { vars with environment := v }
  | .index object key origin => do
    c.writeIndex line origin object key v
    return vars

/-- Runs a statement; gives the variables after it. Of several places the
last one is stored into first. -/
def Stmt.exec (c : Context) (vars : Variables) : Stmt → Run Variables
  | .locals names values => do
    -- The new variables are not visible in their own values.
    let vs ← Expr.evalList c vars values
    return vars.declare names (padded names.length vs)
  | .assign targets values line => do
    let places ← targets.mapM (Target.place c vars)
    let vs := padded places.length (← Expr.evalList c vars values)
    (places.zip vs).reverse.foldlM (fun vars p => p.1.store c line vars p.2) vars
  | .run call => do
    let _ ← call.eval c vars
    return vars

/-- Runs a program; gives what it returns. -/
def Program.run (c : Context) (p : Program) : Run (List Value) := do
  let vars ← p.body.foldlM (fun vars s => s.exec c vars) ⟨[], .table (← get).globals⟩
  Expr.evalList c vars p.results

end BindingCompiler.Script
