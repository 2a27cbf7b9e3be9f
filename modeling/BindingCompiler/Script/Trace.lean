import BindingCompiler.Text.Utf8

/-!
# `BindingCompiler.Script.Trace`: the calls that lead to an error

An error is reported with the calls that had not returned when it came
up, the innermost first. Of many calls the ten innermost and the eleven
outermost are shown.

Calls nest 200 deep at most, and writing the trace takes calls as well:
an error that comes up where none is left arrives as the error that
calls nest too deep.

* `arriving_of_two_le`: where two calls are left, every error arrives as it is.
-/

set_option autoImplicit false

namespace BindingCompiler.Script

open Text

/-- A call that has not returned. -/
inductive Frame where
  /-- A program, at the position it has got to. -/
  | program (position : List UInt8)
  /-- A function that is not a program, under the name that everyone knows it by. -/
  | native (name : Option String)
  deriving DecidableEq, Repr

/-- The calls that have not returned, the innermost first. -/
abbrev Trace := List Frame

namespace Frame

/-- The position of a call; a function that is no program has none. -/
def position : Frame → List UInt8
  | .program position => position
  | .native _ => []

/-- A call as it is shown. -/
def shown : Frame → List UInt8
  | .program position => position ++ encode "in main chunk"
  | .native (some name) => encode s!"[C]: in function '{name}'"
  | .native none => encode "[C]: in ?"

end Frame

namespace Trace

/-- How many calls are shown of the innermost ones. -/
def innermost : Nat := 10

/-- How many calls are shown of the outermost ones. -/
def outermost : Nat := 11

/-- The lines that show calls. -/
def lines (trace : Trace) : List (List UInt8) :=
  let shown := trace.map Frame.shown
  let hidden := shown.length - (innermost + outermost + 1)
  if hidden = 0 then shown
  else
    shown.take innermost ++ [encode s!"...\t(skipping {hidden} levels)"]
      ++ shown.drop (shown.length - outermost)

/-- Calls in words, to be put after the message of an error. -/
def text (trace : Trace) : List UInt8 :=
  encode "\nstack traceback:" ++ trace.lines.flatMap fun line => encode "\n\t" ++ line

end Trace

/-! ### The limit of calls -/

/-- How many calls nest at most. -/
def callLimit : Nat := 200

/-- The message of calls that nest too deep. -/
def tooManyCalls : List UInt8 := encode "C stack overflow"

/-- A message, which ends at a zero byte, with the calls that led to it.
The call that writes them down is the innermost one. -/
def traced (trace : Trace) (message : List UInt8) : List UInt8 :=
  message.takeWhile (· != 0) ++ Trace.text (.native none :: trace)

/-- How many bytes a message with its calls can have before it is moved,
which is one more call. -/
def tracedLimit : Nat := 1024

/-- The message that an error arrives with, where `levels` further calls can nest. -/
def arriving (levels : Nat) (trace : Trace) (message : List UInt8) : List UInt8 :=
  if levels = 0 ∨ levels = 1 ∧ tracedLimit < (traced trace message).length then tooManyCalls
  else message

/-- Where two calls are left, every error arrives as it is. -/
theorem arriving_of_two_le {levels : Nat} (h : 2 ≤ levels) (trace : Trace)
    (message : List UInt8) : arriving levels trace message = message := by
  unfold arriving
  rw [if_neg]
  omega

end BindingCompiler.Script
