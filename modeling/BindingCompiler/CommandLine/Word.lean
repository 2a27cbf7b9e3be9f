/-!
# `BindingCompiler.CommandLine.Word`: the words of a command line

A word that begins with two dashes names one option and can have a
value after an equals sign. A word that begins with one dash is a
cluster of option letters. Two dashes alone end the options. All other
words are plain, one dash alone among them.

* `ofString_eq_plain_iff`: plain are the words that do not begin with a
  dash, and the dash alone.
-/

set_option autoImplicit false

namespace BindingCompiler.CommandLine

/-- A word by what its dashes say. -/
inductive Word where
  /-- No word after this one is an option. -/
  | endOfOptions
  | option (name : String) (value? : Option String)
  | cluster (letters : List Char)
  | plain (text : String)
  deriving DecidableEq, Repr

/-- A named option, with what stands after the first equals sign. -/
def Word.named (cs : List Char) : Word :=
  .option (String.ofList (cs.takeWhile (· != '=')))
    ((cs.dropWhile (· != '=')).tail?.map String.ofList)

/-- The word of a text. -/
def Word.ofString (text : String) : Word :=
  match text.toList with
  | ['-', '-'] => .endOfOptions
  | '-' :: '-' :: name => .named name
  | '-' :: c :: letters => .cluster (c :: letters)
  | _ => .plain text

/-- Plain are the words that do not begin with a dash, and the dash alone. -/
theorem Word.ofString_eq_plain_iff (text : String) :
    Word.ofString text = .plain text ↔ text.toList.head? ≠ some '-' ∨ text = "-" := by
  unfold Word.ofString Word.named
  split
  · rename_i h
    simp only [h, List.head?_cons, ne_eq, not_true_eq_false, false_or]
    constructor
    · simp
    · rintro rfl
      simp at h
  · rename_i h
    simp only [h, List.head?_cons, ne_eq, not_true_eq_false, false_or]
    constructor
    · simp
    · rintro rfl
      simp at h
  · rename_i h
    simp only [h, List.head?_cons, ne_eq, not_true_eq_false, false_or]
    constructor
    · simp
    · rintro rfl
      simp at h
  · rename_i h1 h2 h3
    simp only [true_iff]
    match hc : text.toList with
    | [] => simp
    | [c] =>
      by_cases hd : c = '-'
      · right
        rw [← String.ofList_toList (s := text), hc, hd]
      · left
        simpa using hd
    | a :: b :: rest =>
      left
      intro h
      simp only [List.head?_cons, Option.some.injEq] at h
      exact h3 b rest (h ▸ hc)

end BindingCompiler.CommandLine
