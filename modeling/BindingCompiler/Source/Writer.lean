import BindingCompiler.Source.Layout

/-!
# `BindingCompiler.Source.Writer`: a writer that indents

Source text is written line by line. The writer keeps the text so far and counts the blocks that
are open; each line is indented by two spaces for each of them, and an empty line is not indented.

A block is opened by one call and closed by another, and nothing makes a caller pair them. Where
no block is open, closing one leaves the counter at zero and writes the brace all the same.

* `Writer.write_eq`: what a single call does to the text and to the counter.
* `Writer.writeAll_eq`: what a run of calls does. The text grows by the lines of `Layout.lines`,
  each with a line feed behind it, and the counter becomes that of `Layout.depthAfter`.
-/

set_option autoImplicit false

namespace BindingCompiler.Source

open Layout

/-- A text that is being written. -/
structure Writer where
  /-- The text so far. -/
  buffer : String
  /-- The number of blocks that are open. -/
  depth : Nat
  deriving Repr

namespace Writer

/-- The writer before its first call. -/
def empty : Writer := ⟨"", 0⟩

/-- Writes a line, which may be empty. -/
def line (w : Writer) (text : String) : Writer :=
  let indented := if text.isEmpty then "" else indent w.depth ++ text
  { w with buffer := w.buffer ++ indented ++ "\n" }

/-- Writes an empty line. -/
def blank (w : Writer) : Writer := { w with buffer := w.buffer ++ "\n" }

/-- Writes the line that opens a block. The lines after it stand inside. -/
def opening (w : Writer) (head : String) : Writer :=
  let w := w.line (head ++ " \x7b")
  { w with depth := w.depth + 1 }

/-- Closes the innermost block, if there is one, and writes its brace outside of it. -/
def closing (w : Writer) : Writer := { w with depth := w.depth - 1 }.line "\x7d"

/-- The writer after a call. -/
def write (w : Writer) : Item → Writer
  | .line text => w.line text
  | .blank => w.blank
  | .opening head => w.opening head
  | .closing => w.closing

/-- The writer after some calls, one after the other. -/
def writeAll (w : Writer) (calls : List Item) : Writer := calls.foldl write w

/-- The text that was written. -/
def finish (w : Writer) : String := w.buffer

/-- A call appends its line, for the depth before the call, and moves the counter. The braces are
never empty, so they are indented like any other line. -/
theorem write_eq (w : Writer) (call : Item) :
    w.write call = ⟨w.buffer ++ call.text w.depth ++ "\n", call.depthAfter w.depth⟩ := by
  cases call with
  | line text => rfl
  | blank =>
      show (⟨w.buffer ++ "\n", w.depth⟩ : Writer) = ⟨w.buffer ++ "" ++ "\n", w.depth⟩
      rw [String.append_empty]
  | opening head =>
      have hne : ¬ (head ++ " \x7b").isEmpty = true := by
        simp [String.isEmpty_iff, String.append_eq_empty_iff]
      have hline : w.line (head ++ " \x7b")
          = { w with buffer := w.buffer ++ (Item.opening head).text w.depth ++ "\n" } := by
        rw [line, if_neg hne, Item.text]
        simp only [String.append_assoc]
      show { w.line (head ++ " \x7b") with depth := (w.line (head ++ " \x7b")).depth + 1 } = _
      rw [hline]
      rfl
  | closing => rfl

/-- The first call of a run is made before the others. -/
theorem writeAll_cons (w : Writer) (call : Item) (calls : List Item) :
    w.writeAll (call :: calls) = (w.write call).writeAll calls := rfl

/-- A run appends the lines of its calls, and moves the counter past all of them. -/
theorem writeAll_eq (w : Writer) (calls : List Item) :
    w.writeAll calls
      = ⟨w.buffer ++ String.join ((lines w.depth calls).map fun line => line ++ "\n"),
        depthAfter w.depth calls⟩ := by
  induction calls generalizing w with
  | nil =>
      show w = ⟨w.buffer ++ "", w.depth⟩
      rw [String.append_empty]
  | cons call calls ih =>
      rw [writeAll_cons, ih, write_eq]
      simp only [lines, List.map_cons, String.join_cons, String.append_assoc]
      rfl

/-- The text of a run from the beginning is its layout. -/
theorem finish_writeAll (calls : List Item) :
    (empty.writeAll calls).finish = Layout.render calls := by
  rw [writeAll_eq]
  exact String.empty_append

/-- The counter after a run from the beginning. -/
theorem depth_writeAll (calls : List Item) :
    (empty.writeAll calls).depth = depthAfter 0 calls := by
  rw [writeAll_eq]
  rfl

end Writer

end BindingCompiler.Source
