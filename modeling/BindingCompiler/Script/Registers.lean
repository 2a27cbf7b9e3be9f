import BindingCompiler.Script.Program

/-!
# `BindingCompiler.Script.Registers`: the registers that a program needs

A program is put together for a machine with 254 registers. Its local
variables have the first ones, in the order in which they are made;
what an expression needs on the way takes the next free one, and gives
it back when it is used up. A program that needs more registers is
none.

Constants and names of fields need no register of their own as long as
an instruction can name them: they have to be among the first 256
constants of the program.

* `reserve_isSome_iff`: registers can be taken up to the limit.
* `taken_release_le`: giving a register back takes none.
-/

set_option autoImplicit false

namespace BindingCompiler.Script

/-- Where the value of an expression is while the program is put together. -/
inductive Operand where
  | constant (value : Value)
  /-- In a register: that of a local variable, or another one. -/
  | register (number : Nat)
  /-- The table of the global variables has a place of its own. -/
  | environment
  /-- A field of that table, not looked up yet. -/
  | globalField
  /-- A field, not looked up yet, of the table in a register; its key is
  in a register, too, unless it is named. -/
  | field (object : Nat) (key : Option Nat)
  /-- Computed as soon as a register is chosen for it. -/
  | unplaced
  /-- The values of a call, from a register on. -/
  | results (base : Nat)
  deriving DecidableEq, Repr

namespace Operand

/-- Whether the operand is a field that is not looked up yet. -/
def isField : Operand → Bool
  | .globalField | .field _ _ => true
  | _ => false

/-- Whether the operand has as many values as are asked for. -/
def isMultiple : Operand → Bool
  | .results _ => true
  | _ => false

end Operand

/-- The registers of a program as far as it is put together. -/
structure Registers where
  /-- The local variables, the newest first; each one has a register. -/
  locals : List String
  /-- How many registers are taken; they are the first ones. -/
  taken : Nat
  /-- The constants that an instruction can name. -/
  constants : List Value
  deriving Inhabited

namespace Registers

/-- No register is taken. -/
def empty : Registers := ⟨[], 0, []⟩

/-- How many registers there are. -/
def limit : Nat := 254

/-- How many constants an instruction can name. -/
def constantLimit : Nat := 256

/-- How many bytes a string has at most that names a field. -/
def nameLimit : Nat := 40

/-- The greatest integer that names an item. -/
def itemLimit : Int := 255

/-- Takes the next registers. -/
def reserve (r : Registers) (count : Nat) : Option Registers :=
  if r.taken + count ≤ limit then some { r with taken := r.taken + count } else none

/-- Gives a register back, unless it is that of a variable. -/
def release (r : Registers) (number : Nat) : Registers :=
  if r.locals.length ≤ number then { r with taken := r.taken - 1 } else r

/-- The registers after a constant has been used, and whether an instruction can name it. -/
def name (r : Registers) (v : Value) : Bool × Registers :=
  if r.constants.contains v then (true, r)
  else if r.constants.length < constantLimit then
    (true, { r with constants := r.constants ++ [v] })
  else (false, r)

/-- The register of a local variable. -/
def registerOf? (r : Registers) (name : String) : Option Nat :=
  (r.locals.idxOf? name).map fun age => r.locals.length - 1 - age

/-- Registers can be taken up to the limit. -/
theorem reserve_isSome_iff (r : Registers) (count : Nat) :
    (r.reserve count).isSome ↔ r.taken + count ≤ limit := by
  unfold reserve
  split <;> simp_all

/-- Giving a register back takes none. -/
theorem taken_release_le (r : Registers) (number : Nat) :
    (r.release number).taken ≤ r.taken := by
  unfold release
  split
  · exact Nat.sub_le _ _
  · exact Nat.le_refl _

end Registers

/-- A step in putting a program together; it fails where registers run out. -/
abbrev Allocation (α : Type) := StateT Registers Option α

namespace Allocation

/-- Takes the next registers. -/
def reserve (count : Nat) : Allocation Unit := fun r => (r.reserve count).map fun r => ((), r)

/-- Gives a register back. -/
def release (number : Nat) : Allocation Unit := modify fun r => r.release number

/-- Gives back all registers but the first ones. -/
def keep (count : Nat) : Allocation Unit := modify fun r => { r with taken := count }

/-- How many registers are taken. -/
def taken : Allocation Nat := return (← get).taken

/-- Uses a constant; whether an instruction can name it. -/
def name (v : Value) : Allocation Bool := modifyGet fun r => r.name v

/-- Whether an integer stands in an instruction that puts it in a register. -/
def isImmediate (n : Int) : Bool := -65535 ≤ n && n ≤ 65536

/-- Uses the constant that an instruction puts in a register, if it needs one. -/
def loadConstant (v : Value) : Allocation Unit := do
  let isNamed :=
    match v with
    | .string _ => true
    | .integer n => !isImmediate n.toInt
    | .float x => !x.toInt?.any isImmediate
    | _ => false
  if isNamed then
    let _ ← name v

/-- Looks a field up, and takes the first value of a call. -/
def discharge : Operand → Allocation Operand
  | .environment | .globalField => return .unplaced
  | .field object key => do
    key.forM release
    release object
    return .unplaced
  | .results base => return .register base
  | o => return o

/-- Puts an operand in the next register. -/
def toNext (o : Operand) : Allocation Nat := do
  let o ← discharge o
  if let .register number := o then release number
  reserve 1
  if let .constant v := o then loadConstant v
  return (← taken) - 1

/-- The register of an operand, which is put in the next one if it has none. -/
def toRegister (o : Operand) : Allocation Nat := do
  match ← discharge o with
  | .register number => return number
  | o => toNext o

/-- The operand as something that has fields. -/
def toObject : Operand → Allocation Operand
  | .environment => return .environment
  | o => return .register (← toRegister o)

/-- Whether an instruction can name a field by the key. -/
def isName : Operand → Allocation Bool
  | .constant (.string bytes) =>
    return (← name (.string bytes)) && bytes.length ≤ Registers.nameLimit
  | _ => return false

/-- Whether an instruction can name an item by the key. -/
def isItem : Operand → Bool
  | .constant (.integer n) => 0 ≤ n.toInt && n.toInt ≤ Registers.itemLimit
  | _ => false

/-- The field of an object under a key. -/
def index (object key : Operand) : Allocation Operand := do
  let isName ← isName key
  match object, isName with
  | .environment, true => return .globalField
  | object, _ =>
    let object ← toRegister object
    if isName || isItem key then return .field object none
    return .field object (some (← toRegister key))

/-- What an operation on a register gives. -/
def operate (o : Operand) : Allocation Operand := do
  release (← toRegister o)
  return .unplaced

/-- Uses an operand as the value of a field. -/
def storeInField (o : Operand) : Allocation Unit := do
  match o with
  | .constant v =>
    unless ← name v do
      let _ ← toRegister o
  | o =>
    let _ ← toRegister o

/-- Uses an operand as the value of what has been assigned to. -/
def store (target o : Operand) : Allocation Unit := do
  match target with
  | .globalField | .field _ _ => storeInField o
  | .environment =>
    let _ ← toRegister o
  | _ =>
    match ← discharge o with
    | .constant v => loadConstant v
    | _ => return

/-- Makes as many values out of the ones that are there, of which the
last is given if there is any. -/
def adjust (wanted given : Nat) (last : Option Operand) : Allocation Unit := do
  match last with
  | some (.results _) | none => pure ()
  | some o =>
    let _ ← toNext o
  if given ≤ wanted then reserve (wanted - given) else keep ((← taken) - (given - wanted))

/-- The targets of an assignment when a variable becomes one more: where
the table or the key of a field is in the variable, the field goes on
with a copy. -/
def separate (targets : List Operand) (assigned : Operand) : Allocation (List Operand) := do
  let copy ← taken
  let touches : Operand → Bool
    | .globalField => assigned == .environment
    | .field object key =>
      assigned == .register object || key.any fun k => assigned == .register k
    | _ => false
  let fresh (number : Nat) : Nat := if assigned == .register number then copy else number
  let separated : Operand → Operand
    | .globalField => .field copy none
    | .field object key => .field (fresh object) (key.map fresh)
    | o => o
  if targets.any touches then reserve 1
  return targets.map fun target => if touches target then separated target else target

/-- Makes new local variables of the registers that are taken last. -/
def declare (names : List String) : Allocation Unit :=
  modify fun r => { r with locals := names.reverse ++ r.locals }

end Allocation

end BindingCompiler.Script
