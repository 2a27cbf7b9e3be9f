/-!
# `BindingCompiler.Text.Utf8`: reading bytes as characters

Bytes that come from outside (a string value of a configuration
script, the content of a file) are read as UTF-8. `decode` reads all of them or
names the first place where the encoding is broken; `decodeLossy`
puts the replacement character U+FFFD there and reads on.

A broken place is the longest run of bytes that starts a well-formed
sequence, or a single byte when none starts there; when the text ends
inside such a run, the sequence is incomplete.
-/

set_option autoImplicit false

namespace BindingCompiler.Text

/-- Where and how the encoding of a text is broken. -/
inductive Utf8Fault where
  /-- No character continues the `length` bytes from `index` on. -/
  | invalid (length index : Nat)
  /-- The text ends inside the character that starts at `index`. -/
  | incomplete (index : Nat)
  deriving DecidableEq, Repr

/-- A broken encoding in words. -/
def Utf8Fault.message : Utf8Fault → String
  | .invalid length index => s!"invalid utf-8 sequence of {length} bytes from index {index}"
  | .incomplete index => s!"incomplete utf-8 byte sequence from index {index}"

/-- What stands at the front of a byte sequence. -/
inductive Utf8Head where
  /-- A character written with `width` bytes. -/
  | char (c : Char) (width : Nat)
  /-- A run of `length` bytes that no character continues. -/
  | invalid (length : Nat)
  /-- The beginning of a character, cut off by the end. -/
  | incomplete
  deriving Repr

/-- Whether a byte may continue a character. -/
def isContinuation (b : UInt8) : Bool := 0x80 ≤ b && b ≤ 0xBF

/-- The payload of a continuation byte. -/
def continuationBits (b : UInt8) : Nat := b.toNat - 0x80

/-- The bytes that may follow the first byte of a character. -/
def secondByteRange (first : UInt8) : UInt8 × UInt8 :=
  if first == 0xE0 then (0xA0, 0xBF)
  else if first == 0xED then (0x80, 0x9F)
  else if first == 0xF0 then (0x90, 0xBF)
  else if first == 0xF4 then (0x80, 0x8F)
  else (0x80, 0xBF)

/-- The number of bytes of the character that starts with `first`. -/
def utf8Width (first : UInt8) : Option Nat :=
  if first < 0x80 then some 1
  else if 0xC2 ≤ first && first ≤ 0xDF then some 2
  else if 0xE0 ≤ first && first ≤ 0xEF then some 3
  else if 0xF0 ≤ first && first ≤ 0xF4 then some 4
  else none

/-- Reads `missing` more continuation bytes of a character whose first
`read` bytes have the payload `bits`. -/
def readContinuation (missing read bits : Nat) : List UInt8 → Utf8Head :=
  match missing with
  | 0 => fun _ => .char (Char.ofNat bits) read
  | missing + 1 => fun
    | [] => .incomplete
    | b :: rest =>
      if isContinuation b then
        readContinuation missing (read + 1) (bits * 0x40 + continuationBits b) rest
      else .invalid read

/-- The front of the sequence `first :: rest`. -/
def utf8Head (first : UInt8) (rest : List UInt8) : Utf8Head :=
  match utf8Width first with
  | none => .invalid 1
  | some 1 => .char (Char.ofNat first.toNat) 1
  | some width =>
    match rest with
    | [] => .incomplete
    | second :: more =>
      let (low, high) := secondByteRange first
      if low ≤ second && second ≤ high then
        let lead := first.toNat % (if width = 2 then 0x20 else if width = 3 then 0x10 else 8)
        readContinuation (width - 2) 2 (lead * 0x40 + continuationBits second) more
      else .invalid 1

/-- Reads the bytes from `index` on. -/
def decodeFrom (index : Nat) : List UInt8 → Except Utf8Fault (List Char)
  | [] => .ok []
  | b :: rest =>
    match utf8Head b rest with
    | .char c width => do
      let cs ← decodeFrom (index + width) (rest.drop (width - 1))
      return c :: cs
    | .invalid length => .error (.invalid length index)
    | .incomplete => .error (.incomplete index)
  termination_by bytes => bytes.length
  decreasing_by simp only [List.length_drop, List.length_cons]; omega

/-- The text a byte sequence encodes, or the first broken place. -/
def decode (bytes : List UInt8) : Except Utf8Fault String :=
  (decodeFrom 0 bytes).map String.ofList

/-- Reads bytes with the replacement character at each broken place. -/
def decodeLossyChars : List UInt8 → List Char
  | [] => []
  | b :: rest =>
    match utf8Head b rest with
    | .char c width => c :: decodeLossyChars (rest.drop (width - 1))
    | .invalid length => Char.ofNat 0xFFFD :: decodeLossyChars (rest.drop (length - 1))
    | .incomplete => [Char.ofNat 0xFFFD]
  termination_by bytes => bytes.length
  decreasing_by all_goals simp only [List.length_drop, List.length_cons]; omega

/-- The text of a byte sequence, broken places replaced. -/
def decodeLossy (bytes : List UInt8) : String := String.ofList (decodeLossyChars bytes)

/-- The bytes that encode a text. -/
def encode (s : String) : List UInt8 := s.toUTF8.data.toList

end BindingCompiler.Text
