import BindingCompiler.Source.BindingClass
import BindingCompiler.Source.Writer

/-!
# `BindingCompiler.Source.Render`: writing the sources of plans

Every function of this module is a sequence of calls of the writer. The
binding class stands in the package of its target, so that members of
the package stay in reach; its listener classes follow in the same file.
A further class, the factory, maps every target to its binding.

Blocks are opened and closed by hand, with loops and conditions between
the two calls. `render` and `renderFactory` run the calls.
-/

set_option autoImplicit false

namespace BindingCompiler.Source

open Layout

/-- The line that every generated file starts with. -/
def header : String := "// Generated by sento. Do not edit."

/-- The package line, if there is a package. -/
def packageCalls (package? : Option String) : List Item :=
  package?.toList.map fun package => .line ("package " ++ package ++ ";")

/-! ### The binding class -/

/-- The fields that a plan adds. -/
def fieldCalls (p : Plan) : List Item := (addedFields p).map FieldDecl.line

/-- Calls a method of the owner on the views of a listener. Around a
call of an optional listener, a condition looks whether the view is
there. -/
def registrationCalls (p : Plan) (l : ListenerTarget) (method : String) (argument : Expr) :
    List Item :=
  l.ids.flatMap fun id =>
    match p.view? id with
    | none => []
    | some v =>
      let receiver := converted (.own v.field) .view l.listener.spec.owner
      let call := (Expr.call receiver method [argument]).text ++ ";"
      if l.isOptional then
        [.opening ("if (this." ++ v.field ++ " != null)"), .line call, .closing]
      else [.line call]

/-- The method that binds. -/
def bindCalls (p : Plan) : List Item :=
  [.line "@Override",
    .opening ("public void bind(final " ++ p.target.sourceName
      ++ " target, final java.lang.Object source, final " ++ finderType ++ " finder)")]
    ++ (preparation p).flatMap Stmt.layout
    ++ (p.listeners.flatMap fun l =>
      registrationCalls p l l.listener.spec.setter (.own l.field))
    ++ [.closing]

/-- The method that unbinds. -/
def unbindCalls (p : Plan) : List Item :=
  [.line "@Override",
    .opening ("public void unbind(final " ++ p.target.sourceName ++ " target)")]
    ++ (p.listeners.flatMap fun l =>
      registrationCalls p l l.listener.spec.unsetter (detachArgument l))
    ++ (clearance p).flatMap Stmt.layout
    ++ [.closing]

/-- The class that binds the target of a plan. -/
def bindingClassCalls (p : Plan) : List Item :=
  [.opening ("public final class " ++ p.binding.localName ++ " implements " ++ bindingInterface
      ++ "<" ++ p.target.sourceName ++ ">")]
    ++ fieldCalls p
    ++ [.blank] ++ bindCalls p
    ++ [.blank] ++ unbindCalls p
    ++ [.closing]

/-! ### Listener classes -/

/-- The line that a method opens with which implements another. -/
def methodHead (m : Method) : String :=
  "public " ++ m.returns.sourceName ++ " " ++ m.name ++ parameterList (callbackParameters m)

/-- The callback, which calls the bound method. -/
def callbackCalls (l : ListenerTarget) : List Item :=
  [.line "@Override", .opening (methodHead l.listener.callback)]
    ++ (callbackStatements l).flatMap Stmt.layout
    ++ [.closing]

/-- A method that does nothing. -/
def stubCalls (m : Method) : List Item :=
  [.line "@Override", .opening (methodHead m)]
    ++ (stubStatements m).flatMap Stmt.layout
    ++ [.closing]

/-- The class of a listener, which keeps the target. -/
def listenerClassCalls (target : TypeName) (l : ListenerTarget) : List Item :=
  let type := target.sourceName
  let name := l.className.localName
  let relation := if l.listener.isInterface then "implements" else "extends"
  [.opening ("final class " ++ name ++ " " ++ relation ++ " "
      ++ l.listener.spec.listener.sourceName),
    .line ("private final " ++ type ++ " target;"),
    .blank,
    .opening (name ++ "(final " ++ type ++ " target)"),
    .line "this.target = target;",
    .closing,
    .blank]
    ++ callbackCalls l
    ++ (l.listener.stubs.flatMap fun m => .blank :: stubCalls m)
    ++ [.closing]

/-- The source file of a plan. -/
def bindingCalls (p : Plan) : List Item :=
  [.line header] ++ packageCalls p.target.package?
    ++ [.blank] ++ bindingClassCalls p
    ++ p.listeners.flatMap fun l => .blank :: listenerClassCalls p.target l

/-! ### The factory -/

/-- The class that maps every target to its binding. -/
def factoryClassCalls (plans : List Plan) : List Item :=
  let name := factoryType.localName
  let types := "<java.lang.Class<?>, " ++ bindingInterface ++ "<?>>"
  let result := bindingInterface ++ "<java.lang.Object>"
  [.opening ("public final class " ++ name),
    .line ("private static final java.util.Map" ++ types
      ++ " BINDINGS = new java.util.IdentityHashMap" ++ types ++ "();"),
    .blank,
    .opening "static"]
    ++ plans.flatMap (fun p => (enterBinding p).layout)
    ++ [.closing,
      .blank,
      .opening ("private " ++ name ++ "()"),
      .closing,
      .blank,
      .line "@SuppressWarnings(\"unchecked\")",
      .opening ("public static " ++ result ++ " createBinding(final java.lang.Class<?> clazz)"),
      .line ("return (" ++ result ++ ") BINDINGS.get(clazz);"),
      .closing,
      .closing]

/-- The source file of the factory. -/
def factoryCalls (plans : List Plan) : List Item :=
  [.line header] ++ packageCalls factoryType.package? ++ [.blank] ++ factoryClassCalls plans

/-! ### Sources -/

/-- The Java source of a plan. -/
def render (p : Plan) : String := (Writer.empty.writeAll (bindingCalls p)).finish

/-- The Java source of the factory for some plans. -/
def renderFactory (plans : List Plan) : String := (Writer.empty.writeAll (factoryCalls plans)).finish

end BindingCompiler.Source
