import BindingCompiler.Text.Split

/-!
# `BindingCompiler.TypeName.Basic`: the names of Java types

A type is named as it is written in Java source, except that a nested
class is written in its binary form: primitives (`int`), classes
(`android.view.View$OnClickListener`) and arrays (`java.lang.String[]`).
The text is the name; what it says of the type is read off it.

* `component?_eq_some_iff`: an array is its component followed by `[]`.
* `component?_length`: the component is the shorter of the two, which
  is what recursion over array types rests on.
-/

set_option autoImplicit false

namespace BindingCompiler

open Text

/-- The name of a Java type. -/
structure TypeName where
  /-- The name as it is written. -/
  text : String
  deriving DecidableEq, Repr, Inhabited

namespace TypeName

instance : ToString TypeName := ⟨TypeName.text⟩

/-- Types of the same text are the same type. -/
theorem eq_of_text {t u : TypeName} (h : t.text = u.text) : t = u := by
  cases t
  cases u
  exact congrArg mk h

/-! ### Types the compiler knows by name -/

def void : TypeName := ⟨"void"⟩
def boolean : TypeName := ⟨"boolean"⟩
def int : TypeName := ⟨"int"⟩
def float : TypeName := ⟨"float"⟩
def object : TypeName := ⟨"java.lang.Object"⟩
def string : TypeName := ⟨"java.lang.String"⟩
def charSequence : TypeName := ⟨"java.lang.CharSequence"⟩
def view : TypeName := ⟨"android.view.View"⟩
def resources : TypeName := ⟨"android.content.res.Resources"⟩

/-- The eight primitive types and `void`. -/
def primitiveTexts : List String :=
  ["void", "boolean", "byte", "char", "short", "int", "long", "float", "double"]

/-! ### What a name says -/

/-- Whether the name is one of the primitive types or `void`. -/
def isPrimitive (t : TypeName) : Bool := primitiveTexts.contains t.text

/-- Whether the name is `void`. -/
def isVoid (t : TypeName) : Bool := t == void

/-- Whether the name is that of a class, an interface or an array. -/
def isReference (t : TypeName) : Bool := !t.isPrimitive

/-- A text without the `[]` at its end. -/
def stripBrackets? (cs : List Char) : Option (List Char) :=
  match cs.reverse with
  | ']' :: '[' :: rest => some rest.reverse
  | _ => none

/-- A text, last character first, without any `[]` at its end. -/
def dropBrackets : List Char → List Char
  | ']' :: '[' :: rest => dropBrackets rest
  | cs => cs

/-- The type of an array's items, one dimension down. -/
def component? (t : TypeName) : Option TypeName :=
  (stripBrackets? t.text.toList).map fun cs => ⟨String.ofList cs⟩

/-- Whether the name is that of an array. -/
def isArray (t : TypeName) : Bool := t.component?.isSome

/-- The innermost item type of an array; any other type is its own element. -/
def element (t : TypeName) : TypeName :=
  ⟨String.ofList (dropBrackets t.text.toList.reverse).reverse⟩

/-- The package of a class; primitives, arrays and classes of the
default package have none. -/
def package? (t : TypeName) : Option String :=
  if t.isPrimitive || t.isArray then none
  else (splitLast? '.' t.text.toList).map fun cut => String.ofList cut.1

/-- The name inside the package, such as `View$OnClickListener`. -/
def localName (t : TypeName) : String :=
  match splitLast? '.' t.text.toList with
  | some (_, name) => String.ofList name
  | none => t.text

/-- The innermost simple name, such as `OnClickListener`. -/
def simpleName (t : TypeName) : String :=
  match splitLast? '$' t.localName.toList with
  | some (_, []) | none => t.localName
  | some (_, name) => String.ofList name

/-- The class called `suffix` inside the class `t`. -/
def nested (t : TypeName) (suffix : String) : TypeName := ⟨t.text ++ "$" ++ suffix⟩

/-- The name in Java source, where a nested class follows a dot. -/
def sourceName (t : TypeName) : String :=
  String.ofList (t.text.toList.map fun c => if c = '$' then '.' else c)

/-- The Java literal of the value a variable of the type starts with. -/
def zeroValue (t : TypeName) : String :=
  match t.text with
  | "boolean" => "false"
  | "char" => "'\\0'"
  | "byte" | "short" | "int" => "0"
  | "long" => "0L"
  | "float" => "0f"
  | "double" => "0d"
  | _ => "null"

/-! ### Arrays and their components -/

/-- Stripping succeeds exactly on a text that ends in `[]`. -/
theorem stripBrackets?_eq_some_iff {cs rest : List Char} :
    stripBrackets? cs = some rest ↔ cs = rest ++ ['[', ']'] := by
  unfold stripBrackets?
  constructor
  · intro h
    split at h
    · rename_i r hr
      simp only [Option.some.injEq] at h
      have hcs := congrArg List.reverse hr
      rw [List.reverse_reverse] at hcs
      simpa [← h] using hcs
    · exact absurd h (by simp)
  · rintro rfl
    simp

/-- An array is its component followed by `[]`. -/
theorem component?_eq_some_iff {t c : TypeName} :
    t.component? = some c ↔ t.text = c.text ++ "[]" := by
  unfold component?
  rw [Option.map_eq_some_iff]
  constructor
  · rintro ⟨rest, hr, rfl⟩
    rw [stripBrackets?_eq_some_iff] at hr
    rw [← String.toList_inj, String.toList_append, String.toList_ofList, hr]
    rfl
  · intro h
    refine ⟨c.text.toList, stripBrackets?_eq_some_iff.mpr ?_, ?_⟩
    · rw [h, String.toList_append]
      rfl
    · rw [String.ofList_toList]

/-- A component has a shorter name than its array. -/
theorem component?_length {t c : TypeName} (h : t.component? = some c) :
    c.text.length < t.text.length := by
  rw [component?_eq_some_iff] at h
  rw [h, String.length_append]
  have : ("[]" : String).length = 2 := rfl
  omega

end TypeName

end BindingCompiler
