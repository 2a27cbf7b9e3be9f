import BindingCompiler.ClassPath.Android
import BindingCompiler.Registry.Basic

/-!
# `BindingCompiler.Registry.Builtin`: the vocabulary every configuration has

Fourteen kinds over the framework's class path: `Bind` for views, eight
resource kinds and five listener kinds.
-/

set_option autoImplicit false

namespace BindingCompiler

namespace Registry

open ClassPath

/-- The built-in resource kinds with their variants. -/
def builtinResources : List (Kind × List ResourceSpec) :=
  [(⟨"BindInteger"⟩, [⟨.int, "getInteger"⟩]),
    (⟨"BindBool"⟩, [⟨.boolean, "getBoolean"⟩]),
    (⟨"BindString"⟩, [⟨.string, "getString"⟩]),
    (⟨"BindText"⟩, [⟨.charSequence, "getText"⟩]),
    (⟨"BindDimen"⟩, [⟨.int, "getDimensionPixelSize"⟩, ⟨.float, "getDimension"⟩]),
    (⟨"BindColor"⟩, [⟨.int, "getColor"⟩]),
    (⟨"BindDrawable"⟩, [⟨Android.drawable, "getDrawable"⟩]),
    (⟨"BindArray"⟩,
      [⟨Android.intArray, "getIntArray"⟩,
        ⟨Android.stringArray, "getStringArray"⟩,
        ⟨Android.charSequenceArray, "getTextArray"⟩])]

/-- A listener of any view with a named callback. -/
def viewListener (listener : TypeName) (setter callback : String) : ListenerSpec :=
  { owner := .view, listener, setter, callback? := some callback }

/-- The built-in listener kinds. -/
def builtinListeners : List (Kind × ListenerSpec) :=
  [(⟨"OnClick"⟩, viewListener Android.onClickListener "setOnClickListener" "onClick"),
    (⟨"OnLongClick"⟩,
      viewListener Android.onLongClickListener "setOnLongClickListener" "onLongClick"),
    (⟨"OnCheckedChanged"⟩,
      { owner := Android.compoundButton
        listener := Android.onCheckedChangeListener
        setter := "setOnCheckedChangeListener"
        callback? := some "onCheckedChanged" }),
    (⟨"OnHover"⟩,
      { owner := .view, listener := Android.onHoverListener, setter := "setOnHoverListener" }),
    (⟨"OnTouch"⟩, viewListener Android.onTouchListener "setOnTouchListener" "onTouch")]

/-- The kind that binds a field to a view. -/
def builtinView : Kind := ⟨"Bind"⟩

/-- The built-in kinds in the order of their registration. -/
def builtinKinds : List Kind :=
  builtinView :: builtinResources.map Prod.fst ++ builtinListeners.map Prod.fst

/-- Registers resource kinds one after the other. -/
def registerResources (r : Registry) (kinds : List (Kind × List ResourceSpec)) :
    Except RegistryError Registry :=
  kinds.foldlM (fun r k => r.registerResource k.1 k.2) r

/-- Registers listener kinds one after the other. -/
def registerListeners (r : Registry) (kinds : List (Kind × ListenerSpec)) :
    Except RegistryError Registry :=
  kinds.foldlM (fun r k => r.registerListener k.1 k.2) r

/-- The registry of the built-in kinds. -/
def builtin : Except RegistryError Registry := do
  let r ← ((ofClassPath .android).registerView builtinView).registerResources builtinResources
  r.registerListeners builtinListeners

end Registry

end BindingCompiler
