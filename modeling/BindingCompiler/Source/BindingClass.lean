import BindingCompiler.Source.Syntax
import BindingCompiler.Plan.Basic

/-!
# `BindingCompiler.Source.BindingClass`: the statements of a binding

A binding class implements two methods of the runtime interface: `bind`
looks the views up, assigns the fields and attaches the listeners,
`unbind` detaches them and clears what `bind` has set. The class of a
listener hands a callback on to a method of the target. Here are the
statements that these methods are made of, and the fields that a binding
class adds. `BindingCompiler.Source.Render` writes the classes around
them, and the conditions around the calls on views that may be missing.
-/

set_option autoImplicit false

namespace BindingCompiler.Source

/-- The runtime's lookup of views and resources. -/
def finderType : String := "io.sento.Finder"

/-- The interface of every binding. -/
def bindingInterface : String := "io.sento.Binding"

/-- The object that a binding works for. -/
def target : Expr := .variable "target"

/-- The object in which views and resources are looked up. -/
def source : Expr := .variable "source"

/-- What looks them up. -/
def finder : Expr := .variable "finder"

/-- The local variable for the view of an id. -/
def viewLocal (id : ResourceId) : String := "view_" ++ id.suffix

/-- A value of one type as another: cast, unless it has the type already
or the type is primitive. -/
def converted (value : Expr) (actual wanted : TypeName) : Expr :=
  if actual = wanted ∨ wanted.isPrimitive then value else .cast wanted.sourceName value

/-- The parameters of a callback, numbered. -/
def callbackParameters (m : Method) : List Parameter :=
  m.parameters.mapIdx fun i t => ⟨t.sourceName, "p" ++ toString i⟩

/-- What a listener is detached with. -/
def detachArgument (l : ListenerTarget) : Expr :=
  if l.listener.spec.unsetsWithNull then .null else .own l.field

/-! ### The binding class -/

/-- The added fields: the views that listeners are attached to, and the listeners. -/
def addedFields (p : Plan) : List FieldDecl :=
  (p.keptViews.map fun v => ⟨"private", TypeName.view.sourceName, v.field⟩)
    ++ p.listeners.map fun l => ⟨"private", l.listener.spec.listener.sourceName, l.field⟩

/-- Looks every view up. -/
def lookUp (v : ViewTarget) : Stmt :=
  .declare TypeName.view.sourceName (viewLocal v.id) (.call finder "find" [.idLiteral v.id, source])

/-- Fails without the view. -/
def requirePresent (v : ViewTarget) : Stmt :=
  .run (.call finder "require"
    [.idLiteral v.id, .variable (viewLocal v.id), source, .string v.describeOwners])

/-- Fetches the resource table. -/
def fetchResources : Stmt :=
  .declare TypeName.resources.sourceName "resources" (.call finder "resources" [source])

/-- The value a field is assigned. -/
def assignedValue : FieldAssignment → Expr
  | .view f id => converted (.variable (viewLocal id)) .view f.type
  | .resource _ id spec => .call (.variable "resources") spec.accessor [.idLiteral id]

/-- Assigns a field of the target. -/
def assignField (a : FieldAssignment) : Stmt :=
  .assign (.field target a.field.name) (assignedValue a)

/-- Keeps a view for `unbind`. -/
def keepView (v : ViewTarget) : Stmt := .assign (.own v.field) (.variable (viewLocal v.id))

/-- Makes a listener. -/
def makeListener (l : ListenerTarget) : Stmt :=
  .assign (.own l.field) (.construct l.className.localName [target])

/-- The statements of `bind` before the first listener is attached. -/
def preparation (p : Plan) : List Stmt :=
  p.views.map lookUp
    ++ (p.views.filter ViewTarget.isRequired).map requirePresent
    ++ (if p.usesResources then [fetchResources] else [])
    ++ p.fields.map assignField
    ++ p.keptViews.map keepView
    ++ p.listeners.map makeListener

/-- Clears a field of the target that held a view. -/
def clearField : FieldAssignment → List Stmt
  | .view f _ => [.assign (.field target f.name) .null]
  | .resource _ _ _ => []

/-- The statements of `unbind` after the last listener is detached. -/
def clearance (p : Plan) : List Stmt :=
  (p.listeners.map fun l => .assign (.own l.field) .null)
    ++ (p.keptViews.map fun v => .assign (.own v.field) .null)
    ++ p.fields.flatMap clearField

/-! ### Listener classes -/

/-- The arguments that a callback hands on to the bound method. -/
def forwardedArguments (l : ListenerTarget) : List Expr :=
  (l.arguments.zip l.method.parameters).map fun (i, type) =>
    converted (.variable ("p" ++ toString i))
      (l.listener.callback.parameters[i]?.getD type) type

/-- Calls the bound method. -/
def forwardedCall (l : ListenerTarget) : Expr :=
  .call target l.method.name (forwardedArguments l)

/-- The statements of the callback. -/
def callbackStatements (l : ListenerTarget) : List Stmt :=
  match l.returns with
  | .nothing | .discard => [.run (forwardedCall l)]
  | .forward => [.giveBack (forwardedCall l)]
  | .returnFalse => [.run (forwardedCall l), .giveBack (.constant "false")]

/-- The statements of an abstract method that the binding has no use for. -/
def stubStatements (m : Method) : List Stmt :=
  if m.returns.isVoid then [] else [.giveBack (.constant m.returns.zeroValue)]

/-! ### The factory -/

/-- The static map of the factory. -/
def bindingsMap : Expr := .variable "BINDINGS"

/-- Enters the binding of a plan. -/
def enterBinding (p : Plan) : Stmt :=
  .run (.call bindingsMap "put"
    [.classLiteral p.target.sourceName, .construct p.binding.text []])

end BindingCompiler.Source
