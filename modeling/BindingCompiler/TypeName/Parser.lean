import BindingCompiler.Text.Alphanumeric
import BindingCompiler.TypeName.Basic

/-!
# `BindingCompiler.TypeName.Parser`: reading type names

A type name is an element followed by any number of `[]`. White space
is allowed around the whole and before each `[]`, and dropped. The
element is a primitive type, or segments of letters, digits, `_` and
`$` between dots, none of which starts with an ASCII digit. There are
no arrays of `void`.
-/

set_option autoImplicit false

namespace BindingCompiler

open Text

/-- What is wrong with a text that is not a type name. -/
inductive TypeNameFault where
  | missingElement
  | arrayOfVoid
  | emptySegment
  | leadingDigit
  | forbiddenCharacter
  deriving DecidableEq, Repr

/-- Why a text is not the name of a type. -/
inductive TypeNameError where
  /-- Nothing but white space. -/
  | empty
  /-- The text, without the white space around it, breaks the grammar. -/
  | invalid (name : String) (fault : TypeNameFault)
  deriving DecidableEq, Repr

/-- A fault in words. -/
def TypeNameFault.message : TypeNameFault → String
  | .missingElement => "missing element type"
  | .arrayOfVoid => "arrays of void are not allowed"
  | .emptySegment => "empty package or class segment"
  | .leadingDigit => "segments must not start with a digit"
  | .forbiddenCharacter => "segments may only contain letters, digits, '_' and '$'"

/-- An error in words. -/
def TypeNameError.message : TypeNameError → String
  | .empty => "type name is empty"
  | .invalid name fault => s!"invalid type name '{name}': {fault.message}"

namespace TypeName

/-- Whether a character may stand in a segment. -/
def isSegmentChar (c : Char) : Bool := isAlphanumeric c || c == '_' || c == '$'

/-- What is wrong with one segment of an element. -/
def segmentFault? (segment : List Char) : Option TypeNameFault :=
  match segment with
  | [] => some .emptySegment
  | first :: _ =>
    if isAsciiDigit first then some .leadingDigit
    else if segment.all isSegmentChar then none
    else some .forbiddenCharacter

/-- Takes the `[]`s off a text, last character first, with the white
space before each, and counts them. -/
def peel : List Char → List Char × Nat
  | ']' :: '[' :: rest =>
    let (element, dimensions) := peel (rest.dropWhile isBlank)
    (element, dimensions + 1)
  | cs => (cs, 0)
  termination_by cs => cs.length
  decreasing_by
    have := (List.dropWhile_suffix (l := rest) isBlank).length_le
    simp only [List.length_cons]
    omega

/-- What is wrong with an element that `dimensions` pairs of brackets follow. -/
def elementFault? (element : List Char) (dimensions : Nat) : Option TypeNameFault :=
  if element.isEmpty then some .missingElement
  else if primitiveTexts.contains (String.ofList element) then
    if String.ofList element = "void" ∧ 0 < dimensions then some .arrayOfVoid else none
  else (segments '.' element).findSome? segmentFault?

/-- The array type of `dimensions` dimensions over an element. -/
def ofElement (element : List Char) (dimensions : Nat) : TypeName :=
  ⟨String.ofList (element ++ (List.replicate dimensions ['[', ']']).flatten)⟩

/-- Reads a type name. -/
def parse (s : String) : Except TypeNameError TypeName :=
  let name := trim s.toList
  if name.isEmpty then .error .empty
  else
    let (rev, dimensions) := peel name.reverse
    let element := rev.reverse
    match elementFault? element dimensions with
    | some fault => .error (.invalid (String.ofList name) fault)
    | none => .ok (ofElement element dimensions)

end TypeName

end BindingCompiler
