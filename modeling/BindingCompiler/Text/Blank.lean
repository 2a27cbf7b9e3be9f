/-!
# `BindingCompiler.Text.Blank`: white space at the ends of a text

A character is blank when it has the Unicode property `White_Space`.
Names are read with the blanks at both ends dropped:

* `trim_trim`: dropping them a second time changes nothing.
* `trim_eq_nil_iff`: nothing is left exactly of a text of blanks.
-/

set_option autoImplicit false

namespace BindingCompiler.Text

/-- The Unicode property `White_Space`. -/
def isBlank (c : Char) : Bool :=
  let n := c.toNat
  (9 ≤ n && n ≤ 13) || n == 0x20 || n == 0x85 || n == 0xA0 || n == 0x1680
    || (0x2000 ≤ n && n ≤ 0x200A) || n == 0x2028 || n == 0x2029 || n == 0x202F
    || n == 0x205F || n == 0x3000

/-- The characters from the first that is not blank on. -/
def trimStart (cs : List Char) : List Char := cs.dropWhile isBlank

/-- The characters up to the last that is not blank. -/
def trimEnd (cs : List Char) : List Char := (cs.reverse.dropWhile isBlank).reverse

/-- The characters between the blanks at both ends. -/
def trim (cs : List Char) : List Char := trimEnd (trimStart cs)

/-- A text without the blanks at its ends. -/
def trimmed (s : String) : String := String.ofList (trim s.toList)

/-- Whether a text holds blanks only. -/
def isBlankText (s : String) : Bool := s.toList.all isBlank

/-! ### What trimming leaves -/

/-- Dropping from the front what fails a test leaves nothing exactly when all of it does. -/
theorem dropWhile_eq_nil_iff_all {p : Char → Bool} {cs : List Char} :
    cs.dropWhile p = [] ↔ ∀ c ∈ cs, p c = true := by
  induction cs with
  | nil => simp
  | cons c cs ih =>
      rw [List.dropWhile_cons]
      split
      · rename_i h
        simp [ih, h]
      · rename_i h
        simp [h]

/-- A list whose first element fails the test loses nothing. -/
theorem dropWhile_of_head {p : Char → Bool} {cs : List Char}
    (h : ∀ c, cs.head? = some c → p c = false) : cs.dropWhile p = cs := by
  cases cs with
  | nil => rfl
  | cons c cs => rw [List.dropWhile_cons, if_neg (by simp [h c rfl])]

/-- The first character left at the front is not blank. -/
theorem head?_dropWhile_false {p : Char → Bool} (cs : List Char) (c : Char)
    (h : (cs.dropWhile p).head? = some c) : p c = false := by
  induction cs with
  | nil => simp at h
  | cons d cs ih =>
      rw [List.dropWhile_cons] at h
      split at h
      · exact ih h
      · rename_i hd
        simp only [List.head?_cons, Option.some.injEq] at h
        rw [← h]
        simpa using hd

/-- `trimEnd` keeps the first character of what it does not empty. -/
theorem head?_trimEnd (cs : List Char) (c : Char) (h : (trimEnd cs).head? = some c) :
    cs.head? = some c := by
  have hsuf : (cs.reverse.dropWhile isBlank) <:+ cs.reverse := List.dropWhile_suffix _
  have hpre : trimEnd cs <+: cs := by
    have := List.reverse_prefix.mpr hsuf
    rwa [List.reverse_reverse] at this
  obtain ⟨t, ht⟩ := hpre
  cases hcs : trimEnd cs with
  | nil => rw [hcs] at h; simp at h
  | cons d ds =>
      rw [hcs] at h ht
      rw [← ht]
      simpa using h

/-- The last character of a trimmed text is not blank. -/
theorem trimEnd_trimEnd (cs : List Char) : trimEnd (trimEnd cs) = trimEnd cs := by
  unfold trimEnd
  rw [List.reverse_reverse, dropWhile_of_head (fun c h => head?_dropWhile_false _ c h)]

/-- Trimming twice is trimming once. -/
theorem trim_trim (cs : List Char) : trim (trim cs) = trim cs := by
  have hstart : trimStart (trim cs) = trim cs :=
    dropWhile_of_head fun c h => head?_dropWhile_false _ c (head?_trimEnd _ c h)
  show trimEnd (trimStart (trim cs)) = trim cs
  rw [hstart]
  exact trimEnd_trimEnd _

/-- Trimming leaves nothing exactly of blanks. -/
theorem trim_eq_nil_iff (cs : List Char) : trim cs = [] ↔ ∀ c ∈ cs, isBlank c = true := by
  constructor
  · intro h
    have hrev : (trimStart cs).reverse.dropWhile isBlank = [] := List.reverse_eq_nil_iff.mp h
    rw [dropWhile_eq_nil_iff_all] at hrev
    have hnil : trimStart cs = [] := by
      cases hcs : trimStart cs with
      | nil => rfl
      | cons c rest =>
          have hblank := hrev c (by rw [hcs]; simp)
          have hfirst := head?_dropWhile_false cs c
            (by show (trimStart cs).head? = some c; rw [hcs]; rfl)
          rw [hblank] at hfirst
          exact absurd hfirst (by decide)
    exact dropWhile_eq_nil_iff_all.mp hnil
  · intro h
    have hnil : trimStart cs = [] := dropWhile_eq_nil_iff_all.mpr h
    show trimEnd (trimStart cs) = []
    rw [hnil]
    rfl

end BindingCompiler.Text
