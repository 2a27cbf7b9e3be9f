import BindingCompiler.Source.Layout
import BindingCompiler.Source.Literal
import BindingCompiler.Marker.ResourceId

/-!
# `BindingCompiler.Source.Syntax`: the Java that bindings are written in

Abstract syntax for the expressions, statements and fields that
generated sources use, and how each of them is written. Types are given
as they read in source.
-/

set_option autoImplicit false

namespace BindingCompiler.Source

/-! ### Syntax -/

/-- An expression. -/
inductive Expr where
  | null
  /-- The literal `false` or `true`, or a number: a constant as it is written. -/
  | constant (text : String)
  | idLiteral (id : ResourceId)
  | string (text : String)
  | classLiteral (type : String)
  /-- A local variable, a parameter or a static field. -/
  | variable (name : String)
  /-- A field of the class itself, `this.name`. -/
  | own (name : String)
  /-- A field of an object. -/
  | field (object : Expr) (name : String)
  /-- A cast in parentheses. -/
  | cast (type : String) (value : Expr)
  | call (receiver : Expr) (method : String) (arguments : List Expr)
  | construct (type : String) (arguments : List Expr)
  deriving Repr

/-- A statement. -/
inductive Stmt where
  /-- A new local variable, `final type name = value;`. -/
  | declare (type name : String) (value : Expr)
  | assign (target value : Expr)
  | run (action : Expr)
  | giveBack (value : Expr)
  /-- Runs the statement only where the value is there. -/
  | unlessNull (value : Expr) (body : Stmt)
  deriving Repr

/-- A parameter of a method. -/
structure Parameter where
  type : String
  name : String
  deriving DecidableEq, Repr

/-- A field of a class. -/
structure FieldDecl where
  modifiers : String
  type : String
  name : String
  deriving DecidableEq, Repr

/-! ### Text -/

mutual

/-- An expression as text. -/
def Expr.text : Expr → String
  | .null => "null"
  | .constant text => text
  | .idLiteral id => id.literal
  | .string text => stringLiteral text
  | .classLiteral type => type ++ ".class"
  | .variable name => name
  | .own name => "this." ++ name
  | .field object name => object.text ++ "." ++ name
  | .cast type value => "((" ++ type ++ ") " ++ value.text ++ ")"
  | .call receiver method arguments =>
    receiver.text ++ "." ++ method ++ "(" ++ String.intercalate ", " (Expr.texts arguments) ++ ")"
  | .construct type arguments =>
    "new " ++ type ++ "(" ++ String.intercalate ", " (Expr.texts arguments) ++ ")"

/-- Expressions as text, one by one. -/
def Expr.texts : List Expr → List String
  | [] => []
  | e :: rest => e.text :: Expr.texts rest

end

/-- A parameter as text. -/
def Parameter.text (p : Parameter) : String := "final " ++ p.type ++ " " ++ p.name

/-- A parameter list as text. -/
def parameterList (parameters : List Parameter) : String :=
  "(" ++ String.intercalate ", " (parameters.map Parameter.text) ++ ")"

/-! ### Layout -/

open Layout

/-- The layout of a statement. -/
def Stmt.layout : Stmt → List Item
  | .declare type name value =>
    [.line ("final " ++ type ++ " " ++ name ++ " = " ++ value.text ++ ";")]
  | .assign target value => [.line (target.text ++ " = " ++ value.text ++ ";")]
  | .run action => [.line (action.text ++ ";")]
  | .giveBack value => [.line ("return " ++ value.text ++ ";")]
  | .unlessNull value body => block ("if (" ++ value.text ++ " != null)") body.layout

/-- The line of a field. -/
def FieldDecl.line (f : FieldDecl) : Item :=
  .line (f.modifiers ++ " " ++ f.type ++ " " ++ f.name ++ ";")

end BindingCompiler.Source
