import BindingCompiler.Marker.Error
import BindingCompiler.Registry.Basic

/-!
# `BindingCompiler.Marker.Validation`: markers against the registry

`Registry.validate` checks one marker on one member and returns the
binding it stands for. `Registry.validateClass` checks all markers of a
class and returns every failure, among them the two that concern more
than one marker: a kind repeated on one member, and a listener kind on
two methods of one name.
-/

set_option autoImplicit false

namespace BindingCompiler

/-- How the result of the bound method becomes the result of the callback. -/
inductive ReturnAdaptation where
  /-- Neither returns a value. -/
  | nothing
  /-- The method's boolean is returned. -/
  | forward
  /-- The callback returns `false` for a method without a result. -/
  | returnFalse
  /-- The method's boolean is dropped. -/
  | discard
  deriving DecidableEq, Repr

/-- The adaptation from a method's result type to a callback's. -/
def ReturnAdaptation.between (callback method : TypeName) : ReturnAdaptation :=
  match callback.isVoid, method.isVoid with
  | true, true => .nothing
  | false, false => .forward
  | false, true => .returnFalse
  | true, false => .discard

/-- What a valid marker stands for. -/
inductive Binding where
  /-- The field takes the view. -/
  | view (kind : Kind) (field : Field) (id : ResourceId) (isOptional : Bool)
  /-- The field takes the resource that the accessor fetches. -/
  | resource (kind : Kind) (field : Field) (id : ResourceId) (spec : ResourceSpec)
  /-- The listener's callback calls the method, each argument taken
  from the callback parameter of that index. -/
  | listener (kind : Kind) (method : Method) (ids : List ResourceId) (isOptional : Bool)
      (listener : ResolvedListener) (arguments : List Nat) (returns : ReturnAdaptation)
  deriving DecidableEq, Repr

/-! ### Arguments of a bound method -/

namespace ClassPath

/-- Gives each argument the first parameter, of those with an index in
`free`, that can be cast to it. Fails at the first argument that finds none. -/
def matchArguments (cp : ClassPath) (parameters : List TypeName) (free : List Nat) :
    List TypeName → Except TypeName (List Nat)
  | [] => .ok []
  | argument :: rest =>
    let fits := fun i =>
      match parameters[i]? with
      | some parameter => cp.isCastable parameter argument
      | none => false
    match free.find? fits with
    | none => .error argument
    | some i =>
      match cp.matchArguments parameters (free.erase i) rest with
      | .ok indices => .ok (i :: indices)
      | .error unmatched => .error unmatched

/-- Whether a field can hold a view: an interface, or a view type. -/
def canHoldView (cp : ClassPath) (type : TypeName) : Bool :=
  !type.isArray && (cp.isInterface type || cp.isSubclassOf type .view)

end ClassPath

/-! ### One marker -/

namespace Registry

/-- Checks the ids and the placement of a marker of a known family. -/
def placementError? (family : Family) (member : Member) (marker : Marker) :
    Option MarkerError :=
  let kind := marker.kind
  if marker.ids.isEmpty then some (.noIds kind member)
  else
    match marker.ids.find? fun id => !id.isWellFormed with
    | some id => some (.malformedId kind member id)
    | none =>
      if family.targetsFields != member.isField then some (.wrongTarget kind family member)
      else if family.targetsFields && 1 < marker.ids.length then
        some (.tooManyIds kind member marker.ids.length)
      else if member.visibility = .ownClass then some (.inaccessible kind member)
      else none

/-- The id of a marker that has one. -/
def firstId (marker : Marker) : ResourceId := marker.ids.headD .null

/-- Checks a view marker on a field. -/
def validateView (r : Registry) (field : Field) (marker : Marker) :
    Except BindingError Binding :=
  if r.classPath.canHoldView field.type then
    .ok (.view marker.kind field (firstId marker) marker.isOptional)
  else .error (.marker (.unfitField marker.kind field .views))

/-- Checks a resource marker on a field. -/
def validateResource (r : Registry) (field : Field) (marker : Marker) :
    Except BindingError Binding :=
  match r.variants marker.kind with
  | .error e => .error (.registry e)
  | .ok variants =>
    match fittingVariant? r.classPath variants field.type with
    | some spec => .ok (.resource marker.kind field (firstId marker) spec)
    | none =>
      .error (.marker (.unfitField marker.kind field
        (.values (variants.map ResourceSpec.valueType))))

/-- Checks a listener marker on a method. -/
def validateListener (r : Registry) (method : Method) (marker : Marker) :
    Except BindingError Binding :=
  match r.listener marker.kind with
  | .error e => .error (.registry e)
  | .ok resolved =>
    if ClassPath.isSupportedReturn method.returns then
      let parameters := resolved.callback.parameters
      match r.classPath.matchArguments parameters (List.range parameters.length)
          method.parameters with
      | .ok arguments =>
        .ok (.listener marker.kind method marker.ids marker.isOptional resolved arguments
          (.between resolved.callback.returns method.returns))
      | .error argument =>
        .error (.marker (.unmatchedArgument marker.kind method argument resolved.callback))
    else .error (.marker (.unsupportedReturn marker.kind method))

/-- Checks one marker on a member. -/
def validate (r : Registry) (member : Member) (marker : Marker) :
    Except BindingError Binding :=
  match r.family marker.kind with
  | .error e => .error (.registry e)
  | .ok family =>
    match placementError? family member marker with
    | some e => .error (.marker e)
    | none =>
      match member with
      | .field field =>
        if family = .view then r.validateView field marker else r.validateResource field marker
      | .method method => r.validateListener method marker

/-! ### All markers of a class -/

/-- A listener kind on the methods of one name. -/
abbrev ListenerKey := String × Kind

/-- The key of a listener marker on a method; other markers have none. -/
def listenerKey? (r : Registry) (member : Member) (marker : Marker) : Option ListenerKey :=
  match member, r.family marker.kind with
  | .method m, .ok .listener => some (m.name, marker.kind)
  | _, _ => none

/-- The failure of one marker by itself. -/
def failure? (r : Registry) (member : Member) (marker : Marker) : Option BindingError :=
  match r.validate member marker with
  | .ok _ => none
  | .error e => some e

/-- The failures of a member's markers, after the kinds in `seen` on
the same member and the listeners in `listened` on the class; with the
listeners that the markers add. -/
def memberFailures (r : Registry) (member : Member) (seen : List Kind)
    (listened : List ListenerKey) : List Marker → List BindingError × List ListenerKey
  | [] => ([], listened)
  | marker :: rest =>
    if seen.contains marker.kind then
      -- A repeated kind is one failure, whatever else is wrong with the marker.
      let (errors, listened) := r.memberFailures member seen listened rest
      (.marker (.duplicate marker.kind member) :: errors, listened)
    else
      let seen := marker.kind :: seen
      match member, r.listenerKey? member marker with
      | .method m, some key =>
        -- So is a listener that a method of this name has already.
        if listened.contains key then
          let (errors, listened) := r.memberFailures member seen listened rest
          (.marker (.overloaded marker.kind m) :: errors, listened)
        else
          let (errors, after) := r.memberFailures member seen (key :: listened) rest
          ((r.failure? member marker).toList ++ errors, after)
      | _, _ =>
        let (errors, listened) := r.memberFailures member seen listened rest
        ((r.failure? member marker).toList ++ errors, listened)

/-- The failures of some members, after the listeners in `listened`. -/
def membersFailures (r : Registry) (listened : List ListenerKey) :
    List MarkedMember → List BindingError
  | [] => []
  | m :: rest =>
    let (errors, listened) := r.memberFailures m.member [] listened m.markers
    errors ++ r.membersFailures listened rest

/-- Checks every marker of a class and returns all failures. -/
def validateClass (r : Registry) (c : MarkedClass) : List BindingError :=
  r.membersFailures [] c.members

end Registry

end BindingCompiler
