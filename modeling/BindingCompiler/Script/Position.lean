import BindingCompiler.Text.Utf8

/-!
# `BindingCompiler.Script.Position`: where in a source an error is

A source is named by the file it comes from (`@file`), by a text to be
shown as it is (`=text`), or by any other text, of which the first line
is shown between brackets. A name is shown with at most 59 bytes: of a
file the end is shown, of any other name the beginning.

* `shortName_length_le`: no name is shown longer than that.
-/

set_option autoImplicit false

namespace BindingCompiler.Script

open Text

/-- How many bytes of a name are shown at most. -/
def nameLimit : Nat := 59

/-- What stands for the part of a name that is not shown. -/
def ellipsis : List UInt8 := encode "..."

/-- A name between brackets, in quotes. -/
def bracketed (name : List UInt8) : List UInt8 :=
  encode "[string \"" ++ name ++ encode "\"]"

/-- Brackets and quotes take eleven bytes. -/
theorem bracketed_length (name : List UInt8) : (bracketed name).length = name.length + 11 := by
  have hfront : (encode "[string \"").length = 9 := by rfl
  have hback : (encode "\"]").length = 2 := by rfl
  rw [bracketed, List.length_append, List.length_append, hfront, hback]
  omega

/-- The ellipsis takes three bytes. -/
theorem ellipsis_length : ellipsis.length = 3 := by rfl

/-- The name of a source as it is shown. -/
def shortName : List UInt8 → List UInt8
  | 0x3D :: text => text.take nameLimit
  | 0x40 :: file =>
    if file.length ≤ nameLimit then file
    else ellipsis ++ file.drop (file.length - (nameLimit - 3))
  | text =>
    let line := text.takeWhile (· != 0x0A)
    if text.length < 45 ∧ line.length = text.length then bracketed text
    else bracketed (line.take 45 ++ ellipsis)

/-- No name is shown longer than the limit. -/
theorem shortName_length_le (name : List UInt8) : (shortName name).length ≤ nameLimit := by
  unfold shortName
  split
  · exact List.length_take_le _ _
  · split
    · assumption
    · simp only [nameLimit, List.length_append, List.length_drop, ellipsis_length]
      omega
  · dsimp only
    split <;> rename_i h
    · rw [bracketed_length, nameLimit]
      omega
    · rw [bracketed_length, List.length_append, List.length_take, ellipsis_length, nameLimit]
      omega

/-- A position in words, up to the message that follows it. -/
def position (shortName : List UInt8) (line : Nat) : List UInt8 :=
  shortName ++ encode s!":{line}: "

end BindingCompiler.Script
