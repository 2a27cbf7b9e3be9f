import BindingCompiler.Number.Numeral

/-!
# `BindingCompiler.Script.Quoted`: strings as a script writes them

A source is looked at byte by byte, each byte as the character of that
number. A string stands between quotes, with escapes for what cannot
stand there as it is, or between long brackets, which have a level and
no escapes. Line breaks have one or two characters and count as one.

Each reader gives what the string holds, the line that it ends in, and
what follows it; the rest is shorter than what was read.
-/

set_option autoImplicit false

namespace BindingCompiler.Script

/-- What follows a line break, where one stands. -/
def lineBreak? : List Char → Option (List Char)
  | '\r' :: '\n' :: rest | '\n' :: '\r' :: rest | '\r' :: rest | '\n' :: rest => some rest
  | _ => none

/-- Whether a character is white space in a script. -/
def isSpace (c : Char) : Bool :=
  c == ' ' || c == '\t' || c == '\n' || c == '\r' || c == '\x0b' || c == '\x0c'

/-- The contents of a string, the line it ends in, and what follows. -/
abbrev Quoted := List Char × Nat × List Char

/-- A string that goes on with `cs` in front. -/
def Quoted.withFront (cs : List Char) (q : Quoted) : Quoted := (cs ++ q.1, q.2)

/-! ### Long brackets -/

/-- The level of the long bracket that begins with `[`, and what follows it. -/
def longBracket? (cs : List Char) : Option (Nat × List Char) :=
  match cs.dropWhile (· == '=') with
  | '[' :: rest => some ((cs.takeWhile (· == '=')).length, rest)
  | _ => none

/-- What follows the bracket that closes a level, after its first `]`. -/
def closing? (level : Nat) (cs : List Char) : Option (List Char) :=
  match cs.dropWhile (· == '=') with
  | ']' :: rest => if (cs.takeWhile (· == '=')).length = level then some rest else none
  | _ => none

/-- The contents up to the closing bracket; each line break becomes a line feed. -/
def longContents? (level line : Nat) : List Char → Option Quoted
  | [] => none
  | '\r' :: '\n' :: rest | '\n' :: '\r' :: rest | '\r' :: rest | '\n' :: rest =>
    (longContents? level (line + 1) rest).map (Quoted.withFront ['\n'])
  | ']' :: rest =>
    match closing? level rest with
    | some after => some ([], line, after)
    | none => (longContents? level line rest).map (Quoted.withFront [']'])
  | c :: rest => (longContents? level line rest).map (Quoted.withFront [c])

/-- The long string of a level after its opening bracket; a line break
right there is dropped. -/
def long? (level line : Nat) (cs : List Char) : Option Quoted :=
  match lineBreak? cs with
  | some rest => longContents? level (line + 1) rest
  | none => longContents? level line cs

/-! ### Escapes -/

/-- The last bytes of a code point, `count` of them, with six bits each. -/
def trailingBytes : (count n : Nat) → List Char
  | 0, _ => []
  | count + 1, n => trailingBytes count (n / 0x40) ++ [Char.ofNat (0x80 + n % 0x40)]

/-- The bytes of a code point of up to 31 bits. -/
def codePointBytes (n : Nat) : List Char :=
  let long (lead count : Nat) : List Char :=
    Char.ofNat (lead + n >>> (6 * count)) :: trailingBytes count n
  if n < 0x80 then [Char.ofNat n]
  else if n < 0x800 then long 0xC0 1
  else if n < 0x10000 then long 0xE0 2
  else if n < 0x200000 then long 0xF0 3
  else if n < 0x4000000 then long 0xF8 4
  else long 0xFC 5

/-- The character for a letter after a backslash. -/
def letterEscape? : Char → Option Char
  | 'a' => some '\x07'
  | 'b' => some '\x08'
  | 'f' => some '\x0c'
  | 'n' => some '\n'
  | 'r' => some '\r'
  | 't' => some '\t'
  | 'v' => some '\x0b'
  | '\\' => some '\\'
  | '\'' => some '\''
  | '"' => some '"'
  | _ => none

/-- The longest run of at most three decimal digits in front. -/
def frontDigits (cs : List Char) : List Char :=
  (cs.take 3).takeWhile Number.decimal.isDigit

/-- What an escape other than a line break stands for, and what follows
it; `cs` comes after the backslash. -/
def escape? (cs : List Char) : Option (List Char × List Char) :=
  match cs with
  | 'x' :: high :: low :: rest =>
    match Text.hexValue? high, Text.hexValue? low with
    | some h, some l => some ([Char.ofNat (16 * h + l)], rest)
    | _, _ => none
  | 'u' :: '\x7b' :: rest =>
    let ds := rest.takeWhile Number.hexadecimal.isDigit
    match rest.dropWhile Number.hexadecimal.isDigit with
    | '\x7d' :: after =>
      let n := Number.hexadecimal.digitsValue ds
      if !ds.isEmpty && n < 0x80000000 then some (codePointBytes n, after) else none
    | _ => none
  | 'z' :: rest => some ([], rest)
  | c :: rest =>
    match letterEscape? c with
    | some value => some ([value], rest)
    | none =>
      let ds := frontDigits cs
      let n := Number.decimal.digitsValue ds
      if ds.isEmpty || 255 < n then none else some ([Char.ofNat n], cs.drop ds.length)
  | [] => none

/-- Passes over white space, and counts the lines. -/
def skipSpace (line : Nat) : List Char → Nat × List Char
  | '\r' :: '\n' :: rest | '\n' :: '\r' :: rest | '\r' :: rest | '\n' :: rest =>
    skipSpace (line + 1) rest
  | c :: rest => if isSpace c then skipSpace line rest else (line, c :: rest)
  | [] => (line, [])

/-! ### Quotes -/

/-- The string up to the quote; `cs` comes after the opening one. -/
def short? (quote : Char) (line : Nat) (cs : List Char) : Option Quoted :=
  match cs with
  | [] => none
  | '\\' :: rest =>
    let (front, line, after) :=
      match lineBreak? rest with
      | some after => (some ['\n'], line + 1, after)
      | none =>
        match escape? rest with
        | some (front, after) =>
          if rest.head? = some 'z' then
            let (line, after) := skipSpace line after
            (some front, line, after)
          else (some front, line, after)
        | none => (none, line, [])
    match front with
    | none => none
    | some front =>
      if after.length ≤ rest.length then
        (short? quote line after).map (Quoted.withFront front)
      else none
  | c :: rest =>
    if c = quote then some ([], line, rest)
    else if c = '\n' ∨ c = '\r' then none
    else (short? quote line rest).map (Quoted.withFront [c])
  termination_by cs.length
  decreasing_by
    · simp only [List.length_cons]
      omega
    · simp only [List.length_cons]
      omega

end BindingCompiler.Script
