import BindingCompiler.Script.Value

/-!
# `BindingCompiler.Script.Program`: programs of a configuration script

Configurations are written in the declarative part of Lua: local
variables, assignments, calls, table constructors, and a list of values
to return at the end. There are no functions of the script's own, no
branches and no loops.

A call, an index and a negation carry the line that an error in them is
reported at. A global variable is the field of its name in a table, the
environment, which programs can use and replace under the name `_ENV`.
-/

set_option autoImplicit false

namespace BindingCompiler.Script

mutual

/-- An expression. -/
inductive Expr where
  /-- Nil, a truth value, a number or a string. -/
  | literal (value : Value)
  /-- A local variable. -/
  | variable (name : String)
  /-- The table of the global variables. -/
  | environment
  | index (object key : Expr) (line : Nat)
  | call (function : Expr) (arguments : List Expr) (line : Nat)
  | table (items : List Item)
  /-- An expression in parentheses, which has exactly one value. -/
  | grouped (inner : Expr)
  | negate (operand : Expr) (line : Nat)

/-- An item of a table constructor. -/
inductive Item where
  /-- The next item of the list. -/
  | positional (value : Expr)
  | keyed (key value : Expr) (line : Nat)

end

instance : Inhabited Expr := ⟨.literal .nil⟩

/-- What can be assigned to. -/
inductive Target where
  | variable (name : String)
  | environment
  | index (object key : Expr)

/-- A statement. -/
inductive Stmt where
  /-- New local variables. -/
  | locals (names : List String) (values : List Expr)
  /-- The line is the one that an error in an assignment to an index is reported at. -/
  | assign (targets : List Target) (values : List Expr) (line : Nat)
  | run (call : Expr)

/-- A program: statements, and the values it returns. -/
structure Program where
  body : List Stmt
  results : List Expr

/-- The name of the environment. -/
def environmentName : String := "_ENV"

/-- How many items of a list a table constructor keeps back before it
writes them into the table. -/
def itemsKept : Nat := 50

namespace Expr

/-- An index that is looked up at the line; other expressions are left. -/
def at_ (e : Expr) (line : Nat) : Expr :=
  match e with
  | .index object key _ => .index object key line
  | e => e

/-- Whether the expression is a call. -/
def isCall : Expr → Bool
  | .call _ _ _ => true
  | _ => false

/-- The expression in parentheses; a literal needs none. -/
def group : Expr → Expr
  | .literal v => .literal v
  | e => .grouped e

/-- Whether the fields of the expression are global variables. -/
def isEnvironment : Expr → Bool
  | .environment => true
  | .variable name => name == environmentName
  | .grouped inner => inner.isEnvironment
  | _ => false

/-- What an assignment to the expression changes. -/
def target? : Expr → Option Target
  | .variable name => some (.variable name)
  | .environment => some .environment
  | .index object key _ => some (.index object key)
  | _ => none

end Expr

end BindingCompiler.Script
