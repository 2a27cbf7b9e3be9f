import BindingCompiler.Manifest.Codec
import BindingCompiler.Plan.Basic

/-!
# `BindingCompiler.Plan.Json`: plans as JSON
-/

set_option autoImplicit false

namespace BindingCompiler

/-- The word for a return adaptation. -/
def ReturnAdaptation.word : ReturnAdaptation → String
  | .nothing => "none"
  | .forward => "forward"
  | .returnFalse => "return_false"
  | .discard => "discard"

/-- An owner as JSON. -/
def ViewOwner.toJson : ViewOwner → Json
  | .field name => .object [("target", .string "field"), ("name", .string name)]
  | .method name => .object [("target", .string "method"), ("name", .string name)]

/-- A view as JSON. -/
def ViewTarget.toJson (v : ViewTarget) : Json :=
  .object
    [("id", v.id.toJson), ("field", .string v.field),
      ("owners", .ofList ViewOwner.toJson v.owners), ("required", .bool v.isRequired)]

/-- An assignment as JSON. -/
def FieldAssignment.toJson : FieldAssignment → Json
  | .view field id =>
    .object [("source", .string "view"), ("field", field.toJson), ("id", id.toJson)]
  | .resource field id spec =>
    .object
      [("source", .string "resource"), ("field", field.toJson), ("id", id.toJson),
        ("spec", spec.toJson)]

/-- The indices of callback parameters as JSON. -/
def indicesToJson (indices : List Nat) : Json := .ofList (fun i => .int (Int.ofNat i)) indices

/-- A listener class as JSON. -/
def ListenerTarget.toJson (l : ListenerTarget) : Json :=
  .object
    [("class", l.className.toJson),
      ("field", .string l.field),
      ("kind", l.kind.toJson),
      ("method", l.method.toJson),
      ("ids", .ofList ResourceId.toJson l.ids),
      ("optional", .bool l.isOptional),
      ("listener", l.listener.toJson),
      ("arguments", indicesToJson l.arguments),
      ("returns", .string l.returns.word)]

/-- A plan as JSON. -/
def Plan.toJson (p : Plan) : Json :=
  .object
    [("target", p.target.toJson),
      ("binding", p.binding.toJson),
      ("views", .ofList ViewTarget.toJson p.views),
      ("fields", .ofList FieldAssignment.toJson p.fields),
      ("listeners", .ofList ListenerTarget.toJson p.listeners)]

end BindingCompiler
