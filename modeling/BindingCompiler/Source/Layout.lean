/-!
# `BindingCompiler.Source.Layout`: lines in nested blocks

Source text is laid out as a sequence of items: plain lines, blank
lines, and lines that open or close a block. A line is indented by two
spaces for each block that is open where it stands; an empty line is
not indented.
-/

set_option autoImplicit false

namespace BindingCompiler.Source.Layout

/-- A part of the layout. -/
inductive Item where
  /-- A line of text. -/
  | line (text : String)
  | blank
  /-- A line that ends in an opening brace. -/
  | opening (head : String)
  /-- A closing brace on a line of its own. -/
  | closing
  deriving DecidableEq, Repr

/-- The number of open blocks after an item, given the number before it. -/
def Item.depthAfter (depth : Nat) : Item → Nat
  | .line _ | .blank => depth
  | .opening _ => depth + 1
  | .closing => depth - 1

/-- The indentation inside `depth` blocks. -/
def indent (depth : Nat) : String := String.ofList (List.replicate (2 * depth) ' ')

/-- The text of an item, given the number of open blocks before it. -/
def Item.text (depth : Nat) : Item → String
  | .line text => if text.isEmpty then "" else indent depth ++ text
  | .blank => ""
  | .opening head => indent depth ++ head ++ " \x7b"
  | .closing => indent (depth - 1) ++ "\x7d"

/-- The lines of a layout that starts inside `depth` blocks. -/
def lines (depth : Nat) : List Item → List String
  | [] => []
  | item :: rest => item.text depth :: lines (item.depthAfter depth) rest

/-- The number of open blocks after a layout. -/
def depthAfter (depth : Nat) (items : List Item) : Nat := items.foldl Item.depthAfter depth

/-- The lines of two layouts, one after the other. -/
theorem lines_append (depth : Nat) (items rest : List Item) :
    lines depth (items ++ rest) = lines depth items ++ lines (depthAfter depth items) rest := by
  induction items generalizing depth with
  | nil => rfl
  | cons item items ih =>
      rw [List.cons_append, lines, ih]
      rfl

/-- Plain lines leave no block open. -/
theorem lines_map_line_append (depth : Nat) (texts : List String) (rest : List Item) :
    lines depth (texts.map .line ++ rest)
      = (texts.map fun text => (Item.line text).text depth) ++ lines depth rest := by
  induction texts with
  | nil => rfl
  | cons text texts ih =>
      rw [List.map_cons, List.cons_append, lines, List.map_cons, List.cons_append]
      exact congrArg ((Item.line text).text depth :: ·) ih

/-- A layout as text, each line ended by a line feed. -/
def render (items : List Item) : String :=
  String.join ((lines 0 items).map fun line => line ++ "\n")

/-- Items between the braces of a block. -/
def block (head : String) (body : List Item) : List Item :=
  .opening head :: body ++ [.closing]

end BindingCompiler.Source.Layout
