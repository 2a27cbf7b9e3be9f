import BindingCompiler.Script.Registers
import BindingCompiler.Script.Token

/-!
# `BindingCompiler.Script.Parser`: programs out of tokens

The parser reads tokens from left to right and never goes back, and
puts the program together as it goes: every expression comes with the
place of its value, and the registers that are taken are counted. It
remembers the line of the token that it took last: a field is looked up
where the program goes on after it, so an error in the lookup is
reported at the line of the last token before that point.

Statements, the expressions in them, and the expressions in these nest
to a certain depth only.
-/

set_option autoImplicit false

namespace BindingCompiler.Script

/-- Why a source is no program. -/
inductive ParseFault where
  | malformed
  | tooDeep
  deriving DecidableEq, Repr

namespace Parser

/-- The tokens that are left, the line of the token taken last, and the
registers of the program so far. -/
structure Cursor where
  rest : List Lexeme
  last : Nat
  registers : Registers

/-- A parser of an `α`. -/
abbrev Parse (α : Type) := StateT Cursor (Except ParseFault) α

/-- An expression, and where its value is. -/
structure Term where
  expr : Expr
  operand : Operand

/-! ### Tokens -/

/-- Nothing can be read here. -/
def fail {α : Type} : Parse α := throw .malformed

/-- The next token, which is left where it is. -/
def peek : Parse (Option Token) := return (← get).rest.head?.map Lexeme.token

/-- The token after the next one. -/
def peekSecond : Parse (Option Token) := return ((← get).rest.drop 1).head?.map Lexeme.token

/-- Takes the next token; the one after it has to be there to be seen. -/
def take : Parse Lexeme := do
  let c ← get
  match c.rest with
  | [] => fail
  | l :: rest =>
    if rest.head?.any fun l => l.token == .uncut then fail
    set { c with rest := rest, last := l.line }
    return l

/-- The line of the token taken last. -/
def lastLine : Parse Nat := return (← get).last

/-- Whether the next token is the symbol. -/
def isNext (symbol : String) : Parse Bool := return (← peek) == some (.symbol symbol)

/-- Takes the symbol if it is next. -/
def takeIf (symbol : String) : Parse Bool := do
  if ← isNext symbol then
    let _ ← take
    return true
  else return false

/-- Takes the symbol, which has to be next. -/
def expect (symbol : String) : Parse Unit := do
  unless ← takeIf symbol do fail

/-- Takes a name. -/
def name : Parse String := do
  match (← take).token with
  | .name text => return text
  | _ => fail

/-! ### Places of values -/

/-- Does a step in putting the program together. -/
def allocate {α : Type} (step : Allocation α) : Parse α := do
  let c ← get
  match step.run c.registers with
  | some (a, registers) =>
    set { c with registers := registers }
    return a
  | none => fail

/-- A constant. -/
def Term.constant (v : Value) : Term := ⟨.literal v, .constant v⟩

/-- The expression, which is looked up here if it is a field. -/
def Term.settle (t : Term) : Parse Expr := do
  let line ← lastLine
  return if t.operand.isField then t.expr.at_ line else t.expr

/-- The expression with its value in the place that a step gives it. -/
def Term.into (t : Term) (step : Operand → Allocation Operand) : Parse Term :=
  return ⟨← t.settle, ← allocate (step t.operand)⟩

/-- The expression with its value in the next register. -/
def Term.placed (t : Term) : Parse Expr := do
  let e ← t.settle
  let _ ← allocate (Allocation.toNext t.operand)
  return e

/-- The last expression of a list, which keeps all its values if it has several. -/
def Term.placedLast (t : Term) : Parse Expr :=
  if t.operand.isMultiple then return t.expr else t.placed

/-- The expression as something that is indexed next. -/
def Term.object (t : Term) : Parse Term :=
  -- The environment is not looked up, it is there.
  t.into Allocation.toObject

/-- The field of an object under a key; the line is that of the last token. -/
def Term.index (object key : Term) : Parse Term := do
  let operand ← allocate (Allocation.index object.operand key.operand)
  return ⟨.index object.expr key.expr (← lastLine), operand⟩

/-- The variable of a name. -/
def variableOf (text : String) : Parse Term := do
  let registers := (← get).registers
  let own (text : String) : Option Term :=
    (registers.registerOf? text).map fun number => ⟨.variable text, .register number⟩
  let environment := (own environmentName).getD ⟨.environment, .environment⟩
  match own text with
  | some t => return t
  | none =>
    if text = environmentName then return environment
    else environment.index (.constant (.ofText text))

/-- The number with the opposite sign, if that is known beforehand. -/
def opposite? : Value → Option Value
  | .integer n => some (.integer (-n))
  | .float x =>
    -- Zero has a sign, which is found out when the program runs.
    if x.isNaN || x.toInt? == some 0 then none else some (.float x.neg)
  | _ => none

/-- The opposite number of an expression; `line` is that of the sign. -/
def Term.negated (t : Term) (line : Nat) : Parse Term := do
  let t ← t.into Allocation.discharge
  let folded? :=
    match t.operand with
    | .constant v => opposite? v
    | _ => none
  match folded? with
  | some v => return .constant v
  | none => return ⟨.negate t.expr line, ← allocate (Allocation.operate t.operand)⟩

/-! ### Expressions -/

/-- A reserved word that is a value. -/
def constant? : String → Option Value
  | "nil" => some .nil
  | "true" => some (.boolean true)
  | "false" => some (.boolean false)
  | _ => none

/-- After an item: takes the closing brace if it is next, with a separator
before it or not; otherwise the separator has to be there. -/
def closes : Parse Bool := do
  let isSeparated ← if ← takeIf "," then pure true else takeIf ";"
  if ← takeIf "\x7d" then return true
  unless isSeparated do fail
  return false

mutual

/-- An expression, with `levels` left to nest in. -/
def expr (fuel levels : Nat) : Parse Term := do
  match fuel, levels with
  | 0, _ => fail
  | _, 0 => throw .tooDeep
  | fuel + 1, levels + 1 =>
    match ← peek with
    | some (.number v) => let _ ← take; return .constant v
    | some (.string bytes) => let _ ← take; return .constant (.string bytes)
    | some (.reserved word) =>
      match constant? word with
      | some v => let _ ← take; return .constant v
      | none => fail
    | some (.symbol "\x7b") => table fuel levels
    | some (.symbol "-") =>
      let line := (← take).line
      (← expr fuel levels).negated line
    | _ => suffixed fuel levels

/-- A name or a group, with what is indexed and called of it. -/
def suffixed (fuel levels : Nat) : Parse Term := do
  match fuel with
  | 0 => fail
  | fuel + 1 =>
    match ← peek with
    | some (.name text) =>
      let _ ← take
      suffixes fuel levels (← variableOf text)
    | some (.symbol "(") =>
      let _ ← take
      let t ← expr fuel levels
      expect ")"
      let t ← t.into Allocation.discharge
      suffixes fuel levels { t with expr := t.expr.group }
    | _ => fail

/-- The indices and calls after an expression. -/
def suffixes (fuel levels : Nat) (t : Term) : Parse Term := do
  match fuel with
  | 0 => fail
  | fuel + 1 =>
    match (← get).rest with
    | ⟨.symbol ".", _⟩ :: _ =>
      let object ← t.object
      let _ ← take
      suffixes fuel levels (← object.index (.constant (.ofText (← name))))
    | ⟨.symbol "[", _⟩ :: _ =>
      let object ← t.object
      let _ ← take
      let key ← (← expr fuel levels).into Allocation.discharge
      expect "]"
      suffixes fuel levels (← object.index key)
    | ⟨token, line⟩ :: _ =>
      let isCall :=
        match token with
        | .symbol "(" | .symbol "\x7b" | .string _ => true
        | _ => false
      if !isCall then return t
      let e ← t.placed
      let base := (← get).registers.taken
      let args ← arguments fuel levels
      -- A call leaves its first value in place of the function.
      allocate (Allocation.keep base)
      suffixes fuel levels ⟨.call e args line, .results (base - 1)⟩
    | [] => return t

/-- The arguments of a call. -/
def arguments (fuel levels : Nat) : Parse (List Expr) := do
  match fuel with
  | 0 => fail
  | fuel + 1 =>
    match ← peek with
    | some (.symbol "\x7b") => return [← (← table fuel levels).placed]
    | some (.string bytes) =>
      let _ ← take
      return [← (Term.constant (.string bytes)).placed]
    | _ =>
      expect "("
      if ← takeIf ")" then return []
      let (front, last) ← exprList fuel levels
      expect ")"
      return front ++ [← last.placedLast]

/-- One or more expressions between commas; the last one is given apart. -/
def exprList (fuel levels : Nat) : Parse (List Expr × Term) := do
  match fuel with
  | 0 => fail
  | fuel + 1 =>
    let t ← expr fuel levels
    if ← takeIf "," then
      let e ← t.placed
      let (front, last) ← exprList fuel levels
      return (e :: front, last)
    else return ([], t)

/-- A table constructor. -/
def table (fuel levels : Nat) : Parse Term := do
  match fuel with
  | 0 => fail
  | fuel + 1 =>
    let base := (← get).registers.taken
    allocate (Allocation.reserve 1)
    expect "\x7b"
    let items ← items fuel levels base 0
    allocate (Allocation.keep (base + 1))
    return ⟨.table items, .register base⟩

/-- The items of a table constructor, and its closing brace. The table is
in the register `base`, and after it are `kept` items of the list. -/
def items (fuel levels base kept : Nat) : Parse (List Item) := do
  match fuel with
  | 0 => fail
  | fuel + 1 =>
    if ← takeIf "\x7d" then return []
    match ← key? fuel levels base with
    | some (key, before) =>
      let value ← expr fuel levels
      let e ← value.settle
      allocate (Allocation.storeInField value.operand)
      allocate (Allocation.keep before)
      let item := Item.keyed key e (← lastLine)
      if ← closes then return [item]
      return item :: (← items fuel levels base kept)
    | none =>
      let t ← expr fuel levels
      -- An item of the list is looked up only after what follows it has been taken.
      if ← closes then return [.positional (← t.placedLast)]
      let e ← t.placed
      let isFull := kept + 1 == itemsKept
      if isFull then allocate (Allocation.keep (base + 1))
      return .positional e :: (← items fuel levels base (if isFull then 0 else kept + 1))

/-- The key of an item with its equals sign, if it has one, and how many
registers were taken before it. -/
def key? (fuel levels base : Nat) : Parse (Option (Expr × Nat)) := do
  match fuel with
  | 0 => fail
  | fuel + 1 =>
    let before := (← get).registers.taken
    let key ←
      match ← peek, ← peekSecond with
      | some (.name _), some .uncut => fail
      | some (.name _), some (.symbol "=") => pure (some (Term.constant (.ofText (← name))))
      | some (.symbol "["), _ =>
        let _ ← take
        let key ← (← expr fuel levels).into Allocation.discharge
        expect "]"
        pure (some key)
      | _, _ => pure none
    match key with
    | some key =>
      expect "="
      let _ ← allocate (Allocation.index (.register base) key.operand)
      return some (key.expr, before)
    | none => return none

end

/-- As many values as are wanted, out of a list of expressions. -/
def adjusted (wanted : Nat) (front : List Expr) (last : Term) : Parse (List Expr) := do
  let e ← last.settle
  allocate (Allocation.adjust wanted (front.length + 1) (some last.operand))
  return front ++ [e]

/-! ### Statements -/

/-- How many local variables a program has at most. -/
def maxLocals : Nat := 200

/-- One or more names of new variables between commas, `count` variables being there. -/
def names (fuel count : Nat) : Parse (List String) := do
  match fuel with
  | 0 => fail
  | fuel + 1 =>
    let text ← name
    if maxLocals ≤ count then fail
    if ← takeIf "," then return text :: (← names fuel (count + 1)) else return [text]

/-- New variables, after the word that announces them. -/
def newLocals (fuel levels : Nat) : Parse Stmt := do
  let names ← names fuel (← get).registers.locals.length
  let values ←
    if ← takeIf "=" then
      let (front, last) ← exprList fuel levels
      adjusted names.length front last
    else
      allocate (Allocation.adjust names.length 0 none)
      pure []
  allocate (Allocation.declare names)
  return .locals names values

/-- An assignment after its newest target; the older ones come newest first. -/
def assignment (fuel levels : Nat) (older : List Operand) (newest : Term) :
    Parse (List Target × List Expr) := do
  match fuel, newest.expr.target? with
  | 0, _ | _, none => fail
  | fuel + 1, some target =>
    if ← takeIf "," then
      let next ← suffixed fuel levels
      let known := newest.operand :: older
      let known ←
        if next.operand.isField then pure known
        else allocate (Allocation.separate known next.operand)
      match levels with
      | 0 => throw .tooDeep
      | levels + 1 =>
        let (targets, values) ← assignment fuel levels known next
        return (target :: targets, values)
    else
      expect "="
      let (front, last) ← exprList fuel levels
      if front.length = older.length then
        let e ← last.settle
        allocate (Allocation.store newest.operand last.operand)
        return ([target], front ++ [e])
      else return ([target], ← adjusted (older.length + 1) front last)

/-- A call or an assignment. -/
def callOrAssignment (fuel levels : Nat) : Parse Stmt := do
  let t ← suffixed fuel levels
  if (← isNext "=") || (← isNext ",") then
    let (targets, values) ← assignment fuel levels [] t
    return .assign targets values (← lastLine)
  else if t.expr.isCall then return .run t.expr
  else fail

/-- A statement other than a return; a lone semicolon is none. -/
def statement (fuel levels : Nat) : Parse (Option Stmt) := do
  match levels with
  | 0 => throw .tooDeep
  | levels + 1 =>
    let s ←
      match ← peek with
      | some (.symbol ";") =>
        let _ ← take
        pure none
      | some (.reserved "local") =>
        let _ ← take
        pure (some (← newLocals fuel levels))
      | _ => pure (some (← callOrAssignment fuel levels))
    -- Only variables keep their registers.
    let locals := (← get).registers.locals
    allocate (Allocation.keep locals.length)
    return s

/-- What a program returns, after the word; nothing may follow. -/
def results (fuel levels : Nat) : Parse (List Expr) := do
  match levels with
  | 0 => throw .tooDeep
  | levels + 1 =>
    let _ ← take
    let isEmpty := match ← peek with
      | none | some (.symbol ";") => true
      | _ => false
    let es ←
      if isEmpty then pure []
      else
        let (front, last) ← exprList fuel levels
        if front.isEmpty && !last.operand.isMultiple then
          let e ← last.settle
          let _ ← allocate (Allocation.toRegister last.operand)
          pure [e]
        else pure (front ++ [← last.placedLast])
    let _ ← takeIf ";"
    if (← peek).isSome then fail
    return es

/-- The statements that are left. -/
def program (fuel levels : Nat) : Parse Program := do
  match fuel with
  | 0 => fail
  | fuel + 1 =>
    match ← peek with
    | none => return ⟨[], []⟩
    | some (.reserved "return") => return ⟨[], ← results fuel levels⟩
    | some _ =>
      let s ← statement fuel levels
      let p ← program fuel levels
      return { p with body := s.toList ++ p.body }

/-- The program that tokens make up. Between two tokens taken, less than
six steps of the parser are nested. -/
def run (levels : Nat) (tokens : List Lexeme) : Except ParseFault Program :=
  match (program (6 * (tokens.length + 1)) levels).run ⟨tokens, 1, .empty⟩ with
  | .ok (p, _) => .ok p
  | .error fault => .error fault

end Parser

namespace Program

/-- The program of a source, whose parts nest `levels` deep at most. -/
def ofSource (levels : Nat) (source : List UInt8) : Except ParseFault Program :=
  Parser.run levels (lexemes source)

/-- The program of a configuration: a list of expressions to return, or
else statements. -/
def ofConfiguration (levels : Nat) (source : List UInt8) : Except ParseFault Program :=
  -- A source that reads as expressions is never taken for statements.
  match Parser.run levels (⟨.reserved "return", 1⟩ :: lexemes source) with
  | .ok p => .ok p
  | .error _ => Parser.run levels (lexemes source)

end Program

end BindingCompiler.Script
