import BindingCompiler.Plan.Build
import BindingCompiler.Proofs.Marker.Validity
import BindingCompiler.Proofs.Source.Tree

/-!
# `BindingCompiler.Proofs.Source.Literal`: owners as Java reads them

A binding hands the owners of a view to the finder as a string literal. They are named by members,
and the name of a member can have any characters in it. So the literal is read here as Java reads
it: Unicode escapes are replaced first, wherever a backslash that is not escaped itself stands in
front of a `u`; then the literal goes on to the first quote that is not escaped, in one line; and
then its escapes are undone (`unescape?`).

* `escape_cons`: what a character is written as.
* `endsEscaping_of_escape`: quotes are escaped, and no Unicode escape begins.
* `unescape?_escape`: undoing the escapes gives the text back.
* `isLiteralOf_stringLiteral_iff`: the literal of a text stands for the text, except that a
  carriage return is written as it is and ends the line.
-/

set_option autoImplicit false

namespace BindingCompiler.Source

/-! ### Literals -/

/-- Whether a text ends in a backslash that escapes what comes next, and is not escaped itself. -/
def endsEscaping (front : List Char) : Bool :=
  front.foldl (fun escaped c => !escaped && c == '\\') false

/-- The character that a letter or a mark stands for after a backslash. -/
def letterValue? : Char → Option Char
  | 'b' => some '\x08'
  | 's' => some ' '
  | 't' => some '\t'
  | 'n' => some '\n'
  | 'f' => some '\x0c'
  | 'r' => some '\r'
  | '"' => some '"'
  | '\'' => some '\''
  | '\\' => some '\\'
  | _ => none

/-- Whether a character is an octal digit. -/
def isOctalDigit (c : Char) : Bool := decide ('0' ≤ c ∧ c ≤ '7')

/-- The octal digits in front, as many as one escape takes: three, or two if the first is above
three. -/
def octalDigits (cs : List Char) : List Char :=
  (cs.take (if cs.head?.any (· ≤ '3') then 3 else 2)).takeWhile isOctalDigit

/-- The number that octal digits are written for. -/
def octalNumber (digits : List Char) : Nat :=
  digits.foldl (fun n c => 8 * n + (c.toNat - '0'.toNat)) 0

/-- What an escape stands for, and what follows it. The text comes after the backslash. -/
def escapeValue? (cs : List Char) : Option (Char × List Char) :=
  match cs.head?.bind letterValue? with
  | some value => some (value, cs.drop 1)
  | none =>
    let digits := octalDigits cs
    if digits.isEmpty then none
    else some (Char.ofNat (octalNumber digits), cs.drop digits.length)

/-- What follows an escape is not longer than the escape and what follows it. -/
theorem length_of_escapeValue? {cs after : List Char} {value : Char}
    (h : escapeValue? cs = some (value, after)) : after.length ≤ cs.length := by
  unfold escapeValue? at h
  split at h
  · cases h
    simp
  · dsimp only at h
    split at h
    · exact absurd h (by simp)
    · cases h
      simp

/-- The text whose escapes are undone, unless there is a backslash that begins none. -/
def unescape? (cs : List Char) : Option (List Char) :=
  match cs with
  | [] => some []
  | '\\' :: rest =>
    match _h : escapeValue? rest with
    | some (value, after) => (unescape? after).map (value :: ·)
    | none => none
  | c :: rest => (unescape? rest).map (c :: ·)
  termination_by cs.length
  decreasing_by
    · have := length_of_escapeValue? _h
      simp only [List.length_cons]
      omega
    · simp

/-- The characters can stand between quotes, as far as quotes and escapes go, and are a text with
its escapes. -/
structure Escapes (body : List Char) (text : String) : Prop where
  /-- No quote ends the literal too early. -/
  quotes : ∀ before after, body = before ++ '"' :: after → endsEscaping before = true
  /-- The quote after the characters ends the literal. -/
  closed : endsEscaping body = false
  /-- No backslash begins a Unicode escape, so none is replaced. -/
  unicode : ∀ before after, body = before ++ '\\' :: 'u' :: after → endsEscaping before = true
  /-- Undoing the escapes gives the text. -/
  unescapes : unescape? body = some text.toList

/-- A string literal that stands for a text: quotes around its escapes, without a line
terminator. -/
def IsLiteralOf (literal text : String) : Prop :=
  ∃ body, literal = "\"" ++ String.ofList body ++ "\"" ∧ Escapes body text
    ∧ '\n' ∉ body ∧ '\r' ∉ body

/-! ### Characters -/

/-- The characters that are not written as they are, and what follows the backslash for each. -/
def marks : List (Char × Char) := [('"', '"'), ('\\', '\\'), ('\n', 'n')]

/-- A character is written as a backslash and its mark, or as it is if it has none. -/
theorem escape_cons (c : Char) (rest : List Char) :
    (∃ mark, (c, mark) ∈ marks ∧ escape (c :: rest) = '\\' :: mark :: escape rest)
      ∨ c ∉ marks.map Prod.fst ∧ escape (c :: rest) = c :: escape rest := by
  by_cases hmem : c ∈ marks.map Prod.fst
  · obtain ⟨⟨_, mark⟩, hmark, rfl⟩ := List.mem_map.mp hmem
    refine .inl ⟨mark, hmark, ?_⟩
    simp only [marks, List.mem_cons, Prod.mk.injEq, List.not_mem_nil, or_false] at hmark
    rcases hmark with ⟨rfl, rfl⟩ | ⟨rfl, rfl⟩ | ⟨rfl, rfl⟩ <;> rfl
  · refine .inr ⟨hmem, ?_⟩
    simp only [marks, List.map_cons, List.map_nil, List.mem_cons, List.not_mem_nil, or_false,
      not_or] at hmem
    obtain ⟨hquote, hbackslash, hfeed⟩ := hmem
    rw [escape]
    · exact hquote
    · exact hbackslash
    · exact hfeed

/-- What follows the backslash stands for the character, is no `u` and no line terminator. -/
theorem letterValue?_of_mem_marks : ∀ e ∈ marks, letterValue? e.2 = some e.1 ∧ e.2 ≠ 'u'
    ∧ e.2 ≠ '\n' ∧ e.1 ≠ '\r' ∧ e.2 ≠ '\r' := by decide

/-! ### Quotes and backslashes -/

/-- A backslash escapes what follows it, and behind that nothing is escaped yet. -/
theorem endsEscaping_escaped (mark : Char) (rest : List Char) :
    endsEscaping ('\\' :: mark :: rest) = endsEscaping rest := rfl

/-- Behind another character nothing is escaped yet. -/
theorem endsEscaping_plain {c : Char} (h : c ≠ '\\') (rest : List Char) :
    endsEscaping (c :: rest) = endsEscaping rest := by
  have hstep : (!false && c == '\\') = false := by simp [h]
  rw [endsEscaping, List.foldl_cons, hstep, endsEscaping]

/-- What is written does not end in a backslash that escapes. -/
theorem endsEscaping_escape (s : List Char) : endsEscaping (escape s) = false := by
  induction s with
  | nil => rfl
  | cons c s ih =>
      rcases escape_cons c s with ⟨mark, -, hwritten⟩ | ⟨hplain, hwritten⟩
      · rw [hwritten, endsEscaping_escaped, ih]
      · have hbackslash : c ≠ '\\' := fun h => hplain (h ▸ by decide)
        rw [hwritten, endsEscaping_plain hbackslash, ih]

/-- Wherever what is written has a quote, or a backslash in front of a `u`, it is escaped. -/
theorem endsEscaping_of_escape {s before after : List Char} {c : Char}
    (h : escape s = before ++ c :: after) (hc : c = '"' ∨ c = '\\' ∧ after.head? = some 'u') :
    endsEscaping before = true := by
  induction s generalizing before with
  | nil =>
      rw [escape] at h
      exact absurd h.symm (by simp)
  | cons d s ih =>
      rcases escape_cons d s with ⟨mark, hmark, hwritten⟩ | ⟨hplain, hwritten⟩
      · rw [hwritten] at h
        -- The place is the backslash, what follows it, or behind both.
        match before with
        | [] =>
            obtain ⟨rfl, rfl⟩ := List.cons.inj h
            rcases hc with hquote | ⟨-, hhead⟩
            · exact absurd hquote (by decide)
            · exact absurd (Option.some.inj hhead) (letterValue?_of_mem_marks _ hmark).2.1
        | [b] =>
            obtain ⟨rfl, -⟩ := List.cons.inj h
            rfl
        | b :: b' :: rest =>
            obtain ⟨rfl, htail⟩ := List.cons.inj h
            obtain ⟨rfl, hrest⟩ := List.cons.inj htail
            rw [endsEscaping_escaped]
            exact ih hrest
      · rw [hwritten] at h
        have hquote : d ≠ '"' := fun h => hplain (h ▸ by decide)
        have hbackslash : d ≠ '\\' := fun h => hplain (h ▸ by decide)
        cases before with
        | nil =>
            obtain ⟨rfl, -⟩ := List.cons.inj h
            rcases hc with hc | ⟨hc, -⟩
            · exact absurd hc hquote
            · exact absurd hc hbackslash
        | cons b rest =>
            obtain ⟨rfl, hrest⟩ := List.cons.inj h
            rw [endsEscaping_plain hbackslash]
            exact ih hrest

/-! ### Undoing escapes -/

/-- An escape with a mark is undone to the character of the mark. -/
theorem unescape?_escaped {c mark : Char} (h : letterValue? mark = some c) (rest : List Char) :
    unescape? ('\\' :: mark :: rest) = (unescape? rest).map (c :: ·) := by
  have hvalue : escapeValue? (mark :: rest) = some (c, rest) := by
    unfold escapeValue?
    show (match letterValue? mark with
      | some value => some (value, rest)
      | none => _) = _
    rw [h]
  rw [unescape?]
  split
  · rename_i heq
    rw [hvalue] at heq
    cases heq
    rfl
  · rename_i heq
    rw [hvalue] at heq
    exact absurd heq (by simp)

/-- A character that is no backslash stands for itself. -/
theorem unescape?_plain {c : Char} (h : c ≠ '\\') (rest : List Char) :
    unescape? (c :: rest) = (unescape? rest).map (c :: ·) := by
  rw [unescape?]
  exact h

/-- Undoing the escapes gives the text back. -/
theorem unescape?_escape (s : List Char) : unescape? (escape s) = some s := by
  induction s with
  | nil => rw [escape, unescape?]
  | cons c s ih =>
      rcases escape_cons c s with ⟨mark, hmark, hwritten⟩ | ⟨hplain, hwritten⟩
      · have hvalue : letterValue? mark = some c := (letterValue?_of_mem_marks _ hmark).1
        rw [hwritten, unescape?_escaped hvalue, ih, Option.map_some]
      · have hbackslash : c ≠ '\\' := fun h => hplain (h ▸ by decide)
        rw [hwritten, unescape?_plain hbackslash, ih, Option.map_some]

/-! ### Line terminators -/

/-- No line feed is written as it is. -/
theorem lineFeed_not_mem_escape (s : List Char) : '\n' ∉ escape s := by
  induction s with
  | nil => simp [escape]
  | cons c s ih =>
      rcases escape_cons c s with ⟨mark, hmark, hwritten⟩ | ⟨hplain, hwritten⟩
      · have hmark : mark ≠ '\n' := (letterValue?_of_mem_marks _ hmark).2.2.1
        rw [hwritten]
        simp [hmark.symm, ih]
      · have hfeed : c ≠ '\n' := fun h => hplain (h ▸ by decide)
        rw [hwritten]
        simp [hfeed.symm, ih]

/-- Every carriage return is written as it is. -/
theorem carriageReturn_mem_escape_iff (s : List Char) : '\r' ∈ escape s ↔ '\r' ∈ s := by
  induction s with
  | nil => simp [escape]
  | cons c s ih =>
      rcases escape_cons c s with ⟨mark, hmark, hwritten⟩ | ⟨-, hwritten⟩
      · obtain ⟨-, -, -, hc, hmark⟩ := letterValue?_of_mem_marks _ hmark
        rw [hwritten]
        simp [hc.symm, hmark.symm, ih]
      · rw [hwritten, List.mem_cons, List.mem_cons, ih]

/-! ### The literal of a text -/

/-- The quotes are the first and the last character, so what is between them is known. -/
theorem eq_escape_of_stringLiteral {s : String} {body : List Char}
    (h : stringLiteral s = "\"" ++ String.ofList body ++ "\"") : body = escape s.toList := by
  rw [stringLiteral, String.append_left_inj, String.append_right_inj, String.ofList_inj] at h
  exact h.symm

/-- What is written for a text can stand between quotes and has the text in it. -/
theorem escapes_escape (s : String) : Escapes (escape s.toList) s where
  quotes _ _ h := endsEscaping_of_escape h (.inl rfl)
  closed := endsEscaping_escape s.toList
  unicode _ _ h := endsEscaping_of_escape h (.inr ⟨rfl, rfl⟩)
  unescapes := unescape?_escape s.toList

/-- The literal of a text has the text with its escapes between quotes, without a line feed. Only
a carriage return is written as it is. So the literal stands for the text, and for no other, if the
text has no carriage return, and for nothing if it has one. -/
theorem isLiteralOf_stringLiteral_iff (s : String) :
    (∃ body, stringLiteral s = "\"" ++ String.ofList body ++ "\"" ∧ Escapes body s
        ∧ '\n' ∉ body ∧ ('\r' ∈ body ↔ '\r' ∈ s.toList))
      ∧ ∀ text, IsLiteralOf (stringLiteral s) text ↔ text = s ∧ '\r' ∉ s.toList := by
  have hreturn := carriageReturn_mem_escape_iff s.toList
  refine ⟨⟨escape s.toList, rfl, escapes_escape s, lineFeed_not_mem_escape _, hreturn⟩, ?_⟩
  intro text
  constructor
  · rintro ⟨body, hbody, hescapes, -, hline⟩
    obtain rfl := eq_escape_of_stringLiteral hbody
    have htext := hescapes.unescapes
    rw [unescape?_escape, Option.some.injEq, String.toList_inj] at htext
    exact ⟨htext.symm, fun h => hline (hreturn.mpr h)⟩
  · rintro ⟨rfl, hno⟩
    exact ⟨escape text.toList, rfl, escapes_escape text, lineFeed_not_mem_escape _,
      fun h => hno (hreturn.mp h)⟩

/-! ### A field with a carriage return in its name -/

namespace TwoLineTitle

/-- A registry with the kind that binds a field to a view. -/
def registry : Registry := (Registry.ofClassPath .empty).registerView ⟨"Bind"⟩

/-- The field of a view. -/
def title : Field := { name := "tit\rle", type := .view }

/-- A class that binds the field. -/
def sample : MarkedClass :=
  { name := ⟨"com.example.Sample"⟩
    members := [⟨.field title, [⟨⟨"Bind"⟩, [⟨1⟩], false⟩]⟩] }

/-- The view of the field. -/
def view : ViewTarget := .ofOwner ⟨1⟩ (.field title.name) false

/-- The plan of the class. -/
def plan : Plan := { Plan.empty sample.name with views := [view], fields := [.view title ⟨1⟩] }

/-- The class is planned: the field is bound to the view. -/
theorem build_sample : Plan.build registry sample = .ok plan := by
  have hregistered : registry.descriptor? ⟨"Bind"⟩ = some .view := by
    rw [registry, Registry.registerView, Registry.descriptor?_enter, if_pos rfl]
  have hvalid := Registry.valid_of_view hregistered title.name false
    (show (⟨1⟩ : ResourceId).isWellFormed = true by decide)
  rw [Plan.build, show sample.placements = [(.field title, ⟨⟨"Bind"⟩, [⟨1⟩], false⟩)] from rfl]
  simp only [List.foldlM_cons, List.foldlM_nil, Draft.place]
  rw [show title = { name := title.name, type := .view } from rfl, hvalid.validate]
  rfl

/-- Binding requires the view with a literal of its owner that stands for nothing. -/
theorem not_isLiteralOf_owners : Plan.build registry sample = .ok plan
    ∧ requirePresent view ∈ bindStatements plan
    ∧ view.describeOwners = "field 'tit\rle'"
    ∧ ∀ text, ¬ IsLiteralOf (stringLiteral view.describeOwners) text := by
  have howners : view.describeOwners.toList = "field 'tit\rle'".toList := by decide
  refine ⟨build_sample, ?_, String.toList_inj.mp howners, ?_⟩
  · have hrequired : view ∈ plan.views.filter ViewTarget.isRequired := List.mem_singleton_self _
    simp only [bindStatements, preparation, List.mem_append, List.mem_map_of_mem hrequired, or_true,
      true_or]
  · rintro text ⟨body, hbody, -, -, hline⟩
    obtain rfl := eq_escape_of_stringLiteral hbody
    refine hline ?_
    rw [howners]
    decide

end TwoLineTitle

end BindingCompiler.Source
