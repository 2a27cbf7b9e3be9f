import BindingCompiler.Declaration.Error
import BindingCompiler.Script.Position
import BindingCompiler.Script.Trace

/-!
# `BindingCompiler.Script.Error`: why a script does not run to its end
-/

set_option autoImplicit false

namespace BindingCompiler.Script

/-- Why a script stops. -/
inductive ScriptError where
  /-- The source is no program. -/
  | malformed
  /-- An error with a message was raised, by the script or by what it did.
  Before the script runs, there are no calls that led to it. -/
  | raised (message : List UInt8) (trace : Trace)
  /-- A declaration was rejected. -/
  | declaration (error : DeclarationError) (trace : Trace)
  deriving DecidableEq, Repr

/-- A message as it is reported: up to a zero byte, and as characters. -/
def reported (message : List UInt8) : String :=
  "runtime error: " ++ Text.decodeLossy (message.takeWhile (· != 0))

namespace ScriptError

/-- An error in words. -/
def message : ScriptError → String
  | .malformed => "syntax error"
  | .raised message _ => reported message
  | .declaration error _ => error.message

/-- The calls that led to an error. -/
def trace : ScriptError → Trace
  | .malformed => []
  | .raised _ trace | .declaration _ trace => trace

/-- An error in words, with the calls that led to it if there are any. -/
def report (e : ScriptError) : String :=
  if e.trace.isEmpty then e.message else e.message ++ Text.decodeLossy e.trace.text

end ScriptError

end BindingCompiler.Script
