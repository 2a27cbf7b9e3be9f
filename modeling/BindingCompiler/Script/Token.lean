import BindingCompiler.Script.Numeral
import BindingCompiler.Script.Quoted

/-!
# `BindingCompiler.Script.Token`: the words of a script

A source is cut into names, reserved words, strings, numbers and
symbols, each with the line that it ends in. White space and comments
stand between them. A comment runs to the end of its line, or, if it
begins with a long bracket, to the bracket that closes it.

What cannot be cut, such as a string that is not closed, is the last
token: a program that does not get that far may fail for another reason.
-/

set_option autoImplicit false

namespace BindingCompiler.Script

/-- A word of a script. -/
inductive Token where
  | name (text : String)
  | reserved (word : String)
  | string (bytes : List UInt8)
  | number (value : Value)
  | symbol (text : String)
  /-- What cannot be cut into tokens. -/
  | uncut
  deriving DecidableEq, Repr

/-- A token and the line that it ends in. -/
structure Lexeme where
  token : Token
  line : Nat
  deriving DecidableEq, Repr

namespace Token

/-- The words that are no names. -/
def reservedWords : List String :=
  ["and", "break", "do", "else", "elseif", "end", "false", "for", "function", "goto", "if",
    "in", "local", "nil", "not", "or", "repeat", "return", "then", "true", "until", "while"]

/-- The symbols of three and two characters, in the order in which they are tried. -/
def longSymbols : List String := ["...", "..", "==", "~=", "<=", ">=", "//", "::", "<<", ">>"]

/-- Whether a name can start with the character. -/
def startsName (c : Char) : Bool :=
  c == '_' || ('a' ≤ c && c ≤ 'z') || ('A' ≤ c && c ≤ 'Z')

/-- Whether a name can go on with the character. -/
def continuesName (c : Char) : Bool := startsName c || Number.decimal.isDigit c

/-- The token of a word. -/
def ofWord (word : String) : Token :=
  if reservedWords.contains word then .reserved word else .name word

/-- The bytes of characters that stand for bytes. -/
def bytesOf (cs : List Char) : List UInt8 := cs.map fun c => UInt8.ofNat c.toNat

/-- The symbol that a character begins, and what follows it. Any character
is a symbol, also one that no program uses. -/
def symbolOf (c : Char) (rest : List Char) : Token × List Char :=
  match longSymbols.find? fun s => s.toList.isPrefixOf (c :: rest) with
  | some s => (.symbol s, rest.drop (s.length - 1))
  | none => (.symbol (String.singleton c), rest)

/-! ### Numbers -/

/-- The characters that are taken for one numeral: digits and points, and
after a mark of an exponent a sign. -/
def numeralSpan (marks : List Char) : List Char → List Char
  | [] => []
  | [c] => if Number.hexadecimal.isDigit c || c == '.' || marks.contains c then [c] else []
  | c :: d :: rest =>
    if marks.contains c then
      if d == '+' || d == '-' then c :: d :: numeralSpan marks rest
      else c :: numeralSpan marks (d :: rest)
    else if Number.hexadecimal.isDigit c || c == '.' then c :: numeralSpan marks (d :: rest)
    else []

/-- The numeral in front, and what follows it. No letter may touch it. -/
def number? (cs : List Char) : Option (Token × List Char) :=
  let span :=
    match hexDigits? cs with
    | some ds => cs.take 2 ++ numeralSpan Number.hexadecimal.marks ds
    | none => numeralSpan Number.decimal.marks cs
  let rest := cs.drop span.length
  match rest with
  | c :: _ => if startsName c then none else (numeral? span).map fun v => (.number v, rest)
  | [] => (numeral? span).map fun v => (.number v, rest)

end Token

/-! ### Cutting -/

/-- What follows the comment after `--`, and the line there. -/
def skipComment (line : Nat) (cs : List Char) : Option (Nat × List Char) :=
  let toLineEnd := some (line, cs.dropWhile fun c => c != '\n' && c != '\r')
  match cs with
  | '[' :: rest =>
    match longBracket? rest with
    | some (level, rest) => (long? level line rest).map fun q => q.2
    | none => toLineEnd
  | _ => toLineEnd

/-- The token in front, the line that it ends in, and what follows; no
white space or comment stands before it. -/
def token? (line : Nat) (cs : List Char) : Option (Lexeme × List Char) :=
  let quoted (q : Option Quoted) : Option (Lexeme × List Char) :=
    q.map fun (contents, line, rest) => (⟨.string (Token.bytesOf contents), line⟩, rest)
  let plain (t : Option (Token × List Char)) : Option (Lexeme × List Char) :=
    t.map fun (token, rest) => (⟨token, line⟩, rest)
  match cs with
  | [] => none
  | c :: rest =>
    if c == '"' || c == '\'' then quoted (short? c line rest)
    else if c == '[' then
      match longBracket? rest with
      | some (level, rest) => quoted (long? level line rest)
      | none => if rest.head? = some '=' then none else some (⟨.symbol "[", line⟩, rest)
    else if Number.decimal.isDigit c
        || (c == '.' && (rest.head?.any Number.decimal.isDigit)) then plain (Token.number? cs)
    else if Token.startsName c then
      plain (some (Token.ofWord (String.ofList (cs.takeWhile Token.continuesName)),
        cs.dropWhile Token.continuesName))
    else plain (some (Token.symbolOf c rest))

/-- Cuts a source into tokens, from a line on. -/
def lexemesFrom (line : Nat) (cs : List Char) : List Lexeme :=
  match cs with
  | [] => []
  | c :: rest =>
    let step : Option (Option Lexeme × Nat × List Char) :=
      match lineBreak? cs with
      | some after => some (none, line + 1, after)
      | none =>
        if isSpace c then some (none, line, rest)
        else if c == '-' && rest.head? = some '-' then
          (skipComment line (rest.drop 1)).map fun after => (none, after)
        else (token? line cs).map fun (lexeme, after) => (some lexeme, lexeme.line, after)
    match step with
    | none => [⟨.uncut, line⟩]
    | some (lexeme, line, after) =>
      if after.length ≤ rest.length then lexeme.toList ++ lexemesFrom line after
      else [⟨.uncut, line⟩]
  termination_by cs.length
  decreasing_by
    simp only [List.length_cons]
    omega

/-- The tokens of a source. -/
def lexemes (source : List UInt8) : List Lexeme :=
  lexemesFrom 1 (source.map fun b => Char.ofNat b.toNat)

end BindingCompiler.Script
