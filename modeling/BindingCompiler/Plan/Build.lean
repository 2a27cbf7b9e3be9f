import BindingCompiler.Plan.Basic

/-!
# `BindingCompiler.Plan.Build`: from markers to a plan

The markers of a class are validated one after the other, member by
member, and each binding extends the plan. The first failure ends it.
A view is listed once for each id; its owners and its being required
are merged from all the markers that carry the id.
-/

set_option autoImplicit false

namespace BindingCompiler

/-- A plan under construction, with the class names it has handed out. -/
structure Draft where
  plan : Plan
  numbering : Numbering

namespace ViewTarget

/-- The view of an id that one marker asks for. -/
def ofOwner (id : ResourceId) (owner : ViewOwner) (isOptional : Bool) : ViewTarget :=
  { id, field := viewField id, owners := [owner], isRequired := !isOptional }

/-- Records one more marker that asks for the view. -/
def merge (v : ViewTarget) (owner : ViewOwner) (isOptional : Bool) : ViewTarget :=
  { v with
    owners := if v.owners.contains owner then v.owners else v.owners ++ [owner]
    isRequired := v.isRequired || !isOptional }

/-- Records a marker among the views: at the view of its id, or as a new view at the end. -/
def record (id : ResourceId) (owner : ViewOwner) (isOptional : Bool) :
    List ViewTarget → List ViewTarget
  | [] => [ofOwner id owner isOptional]
  | v :: rest =>
    if v.id = id then v.merge owner isOptional :: rest
    else v :: record id owner isOptional rest

end ViewTarget

namespace Plan

/-- The plan that does nothing yet. -/
def empty (target : TypeName) : Plan :=
  { target, binding := bindingType target, views := [], fields := [], listeners := [] }

/-- Adds a view that an owner needs. -/
def addView (p : Plan) (id : ResourceId) (owner : ViewOwner) (isOptional : Bool) : Plan :=
  { p with views := ViewTarget.record id owner isOptional p.views }

/-- Whether a listener of the kind already calls a method of the name. -/
def listens (p : Plan) (method : String) (kind : Kind) : Bool :=
  p.listeners.any fun l => l.method.name == method && l.kind == kind

end Plan

namespace Draft

/-- The draft for a target without markers. -/
def start (target : TypeName) : Draft := ⟨.empty target, .empty⟩

/-- Adds a listener that calls a method. -/
def addListener (d : Draft) (kind : Kind) (method : Method) (ids : List ResourceId)
    (isOptional : Bool) (listener : ResolvedListener) (arguments : List Nat)
    (returns : ReturnAdaptation) : Draft :=
  let (className, numbering) := d.numbering.next d.plan.binding
  let plan := ids.foldl (fun p id => p.addView id (.method method.name) isOptional) d.plan
  let target : ListenerTarget :=
    { className
      field := listenerField method.name kind
      kind, method, ids, isOptional, listener, arguments, returns }
  { plan := { plan with listeners := plan.listeners ++ [target] }, numbering }

/-- Extends the draft by one binding. Two methods of one name cannot
both listen with the same kind, for their fields would clash. -/
def extend (d : Draft) : Binding → Except MarkerError Draft
  | .view _ field id isOptional =>
    let plan := d.plan.addView id (.field field.name) isOptional
    .ok { d with plan := { plan with fields := plan.fields ++ [.view field id] } }
  | .resource _ field id spec =>
    .ok { d with plan := { d.plan with fields := d.plan.fields ++ [.resource field id spec] } }
  | .listener kind method ids isOptional listener arguments returns =>
    if d.plan.listens method.name kind then .error (.overloaded kind method)
    else .ok (d.addListener kind method ids isOptional listener arguments returns)

/-- Extends the draft by one marker, if it is valid. -/
def place (r : Registry) (d : Draft) (placement : Member × Marker) :
    Except BindingError Draft :=
  match r.validate placement.1 placement.2 with
  | .error e => .error e
  | .ok binding =>
    match d.extend binding with
    | .error e => .error (.marker e)
    | .ok d => .ok d

end Draft

/-- The plan of a class. -/
def Plan.build (r : Registry) (c : MarkedClass) : Except BindingError Plan :=
  (c.placements.foldlM (Draft.place r) (Draft.start c.name)).map Draft.plan

end BindingCompiler
