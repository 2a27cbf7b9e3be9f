import BindingCompiler.ClassPath.Basic

/-!
# `BindingCompiler.ClassPath.Android`: the framework classes

The `java.lang` and Android types that the built-in binding kinds refer
to, with the methods those kinds call.
-/

set_option autoImplicit false

namespace BindingCompiler

namespace ClassPath.Android

def drawable : TypeName := ⟨"android.graphics.drawable.Drawable"⟩
def colorDrawable : TypeName := ⟨"android.graphics.drawable.ColorDrawable"⟩
def motionEvent : TypeName := ⟨"android.view.MotionEvent"⟩
def editable : TypeName := ⟨"android.text.Editable"⟩
def textWatcher : TypeName := ⟨"android.text.TextWatcher"⟩
def textView : TypeName := ⟨"android.widget.TextView"⟩
def editText : TypeName := ⟨"android.widget.EditText"⟩
def button : TypeName := ⟨"android.widget.Button"⟩
def compoundButton : TypeName := ⟨"android.widget.CompoundButton"⟩
def checkBox : TypeName := ⟨"android.widget.CheckBox"⟩
def switch : TypeName := ⟨"android.widget.Switch"⟩
def onClickListener : TypeName := ⟨"android.view.View$OnClickListener"⟩
def onLongClickListener : TypeName := ⟨"android.view.View$OnLongClickListener"⟩
def onHoverListener : TypeName := ⟨"android.view.View$OnHoverListener"⟩
def onTouchListener : TypeName := ⟨"android.view.View$OnTouchListener"⟩
def onFocusChangeListener : TypeName := ⟨"android.view.View$OnFocusChangeListener"⟩
def onCheckedChangeListener : TypeName :=
  ⟨"android.widget.CompoundButton$OnCheckedChangeListener"⟩
def intArray : TypeName := ⟨"int[]"⟩
def stringArray : TypeName := ⟨"java.lang.String[]"⟩
def charSequenceArray : TypeName := ⟨"java.lang.CharSequence[]"⟩

/-- A method that looks a resource up by its id. -/
def accessor (name : String) (returns : TypeName) : Method :=
  { name, parameters := [.int], returns }

/-- A method that takes a listener. -/
def setter (name : String) (listener : TypeName) : Method :=
  { name, parameters := [listener], returns := .void }

/-- A method that a listener has to implement. -/
def callback (name : String) (parameters : List TypeName) (returns : TypeName) : Method :=
  { name, parameters, returns, isAbstract := true }

/-- A listener interface with one callback. -/
def listener (name : TypeName) (method : Method) : ClassType :=
  { ClassType.interface name with methods := [method] }

/-- `java.lang` and the plain framework values. -/
def values : List ClassType :=
  [.plain .object,
    .interface .charSequence,
    { ClassType.plain .string with interfaces := [.charSequence] },
    .plain motionEvent,
    { ClassType.plain drawable with isAbstract := true },
    { ClassType.plain colorDrawable with parent? := some drawable }]

/-- The resource table. -/
def resourceTable : ClassType :=
  { ClassType.plain .resources with
    methods :=
      [accessor "getInteger" .int,
        accessor "getBoolean" .boolean,
        accessor "getString" .string,
        accessor "getText" .charSequence,
        accessor "getDimension" .float,
        accessor "getDimensionPixelSize" .int,
        accessor "getDimensionPixelOffset" .int,
        accessor "getColor" .int,
        accessor "getDrawable" drawable,
        accessor "getIntArray" intArray,
        accessor "getStringArray" stringArray,
        accessor "getTextArray" charSequenceArray] }

/-- The base class of all views. -/
def view : ClassType :=
  { ClassType.plain .view with
    methods :=
      [setter "setOnClickListener" onClickListener,
        setter "setOnLongClickListener" onLongClickListener,
        setter "setOnHoverListener" onHoverListener,
        setter "setOnTouchListener" onTouchListener,
        setter "setOnFocusChangeListener" onFocusChangeListener] }

/-- The listeners of any view. -/
def viewListeners : List ClassType :=
  [listener onClickListener (callback "onClick" [.view] .void),
    listener onLongClickListener (callback "onLongClick" [.view] .boolean),
    listener onHoverListener (callback "onHover" [.view, motionEvent] .boolean),
    listener onTouchListener (callback "onTouch" [.view, motionEvent] .boolean),
    listener onFocusChangeListener (callback "onFocusChange" [.view, .boolean] .void)]

/-- The widgets and their listeners. -/
def widgets : List ClassType :=
  [{ ClassType.plain textView with
      parent? := some .view
      methods :=
        [setter "addTextChangedListener" textWatcher,
          setter "removeTextChangedListener" textWatcher] },
    { ClassType.plain editText with parent? := some textView },
    { ClassType.plain button with parent? := some textView },
    { ClassType.plain compoundButton with
      parent? := some button
      isAbstract := true
      methods := [setter "setOnCheckedChangeListener" onCheckedChangeListener] },
    { ClassType.plain checkBox with parent? := some compoundButton },
    { ClassType.plain switch with parent? := some compoundButton },
    listener onCheckedChangeListener
      (callback "onCheckedChanged" [compoundButton, .boolean] .void),
    { ClassType.interface textWatcher with
      methods :=
        [callback "beforeTextChanged" [.charSequence, .int, .int, .int] .void,
          callback "onTextChanged" [.charSequence, .int, .int, .int] .void,
          callback "afterTextChanged" [editable] .void] },
    { ClassType.interface editable with interfaces := [.charSequence] }]

end ClassPath.Android

/-- The class path of the framework. -/
def ClassPath.android : ClassPath :=
  ClassPath.empty.insertAll
    (Android.values ++ [Android.resourceTable, Android.view] ++ Android.viewListeners
      ++ Android.widgets)

end BindingCompiler
