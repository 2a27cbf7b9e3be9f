import BindingCompiler.Text.Utf8

/-!
# `BindingCompiler.Files.Basic`: trees of files

A file tree maps paths to files and directories. Operations on it fail
as those of an operating system do, and change nothing then, except
that directories which were made on the way stay.

* `get?_set`: after an entry is set, its path has it and no other path
  has changed.
* `read_write`: a file that could be written reads what was written.
-/

set_option autoImplicit false

namespace BindingCompiler

/-- Where a file or a directory is: the names on the way from the root. -/
abbrev Path := List String

/-- A path as text, from the root. -/
def Path.text (path : Path) : String := "/" ++ String.intercalate "/" path

/-- What is at a path. -/
inductive Entry where
  | file (content : List UInt8)
  | directory
  deriving DecidableEq, Repr

/-- Why an operation on files fails. -/
inductive FileFault where
  | missing
  /-- A file stands where the path goes on. -/
  | underFile
  | isDirectory
  | occupied
  | nameTooLong
  | notText
  deriving DecidableEq, Repr

/-- A fault in words. -/
def FileFault.message : FileFault → String
  | .missing => "No such file or directory (os error 2)"
  | .underFile => "Not a directory (os error 20)"
  | .isDirectory => "Is a directory (os error 21)"
  | .occupied => "File exists (os error 17)"
  | .nameTooLong => "File name too long (os error 36)"
  | .notText => "stream did not contain valid UTF-8"

/-- Files and directories by path. The root is always a directory. -/
structure FileTree where
  entries : List (Path × Entry)
  deriving Inhabited

namespace FileTree

/-- The tree with nothing but the root. -/
def empty : FileTree := ⟨[]⟩

/-- What is at a path. -/
def get? (t : FileTree) : Path → Option Entry
  | [] => some .directory
  | path => t.entries.lookup path

/-- The tree without the entries of some paths. -/
def without (t : FileTree) (isGone : Path → Bool) : FileTree :=
  ⟨t.entries.filter fun entry => !isGone entry.1⟩

/-- The tree without the entry of a path. -/
def erase (t : FileTree) (path : Path) : FileTree := t.without (· == path)

/-- The tree with an entry at a path. -/
def set (t : FileTree) (path : Path) (entry : Entry) : FileTree :=
  ⟨(path, entry) :: (t.erase path).entries⟩

/-- Whether a path is a directory. -/
def isDirectory (t : FileTree) (path : Path) : Bool := t.get? path == some .directory

/-! ### What changes leave -/

/-- A path that is not among the gone ones keeps its entry. -/
theorem lookup_filter {l : List (Path × Entry)} {isGone : Path → Bool} {path : Path}
    (h : isGone path = false) :
    (l.filter fun entry => !isGone entry.1).lookup path = l.lookup path := by
  induction l with
  | nil => rfl
  | cons entry rest ih =>
      obtain ⟨p, e⟩ := entry
      by_cases hp : path = p
      · subst hp
        simp [h]
      · have hb : (path == p) = false := by simpa using hp
        rw [List.lookup_cons, hb]
        by_cases hg : isGone p
        · rw [List.filter_cons_of_neg (by simp [hg])]
          exact ih
        · rw [List.filter_cons_of_pos (by simp [hg]), List.lookup_cons, hb]
          exact ih

/-- After an entry is set, its path has it and no other path has changed. -/
theorem get?_set (t : FileTree) {path : Path} (other : Path) (entry : Entry) (h : path ≠ []) :
    (t.set path entry).get? other = if path = other then some entry else t.get? other := by
  by_cases ho : other = []
  · subst ho
    rw [if_neg h]
    rfl
  · have hget (u : FileTree) : u.get? other = u.entries.lookup other := by
      cases other with
      | nil => exact absurd rfl ho
      | cons _ _ => rfl
    rw [hget, hget]
    unfold set erase without
    by_cases hp : path = other
    · subst hp
      simp
    · have hb : (other == path) = false := by simpa using Ne.symm hp
      rw [if_neg hp, List.lookup_cons, hb]
      exact @lookup_filter t.entries (· == path) other hb

/-! ### Operations -/

/-- How many bytes a name has at most. -/
def nameLimit : Nat := 255

/-- What is wrong with the way from a directory on, but for its last step. -/
def wayFault? (t : FileTree) (front : Path) : Path → Option FileFault
  | [] => none
  | name :: rest =>
    match t.get? front with
    | none => some .missing
    | some (.file _) => some .underFile
    | some .directory =>
      if nameLimit < name.utf8ByteSize then some .nameTooLong
      else t.wayFault? (front ++ [name]) rest

/-- The content of a file. -/
def read (t : FileTree) (path : Path) : Except FileFault (List UInt8) :=
  match t.wayFault? [] path with
  | some fault => .error fault
  | none =>
    match t.get? path with
    | none => .error .missing
    | some .directory => .error .isDirectory
    | some (.file content) => .ok content

/-- The content of a file as text. -/
def readText (t : FileTree) (path : Path) : Except FileFault String := do
  match Text.decode (← t.read path) with
  | .ok s => return s
  | .error _ => throw .notText

/-- Writes a file, over one that is there. -/
def write (t : FileTree) (path : Path) (content : List UInt8) : Except FileFault FileTree :=
  match t.wayFault? [] path with
  | some fault => .error fault
  | none =>
    if t.isDirectory path then .error .isDirectory else .ok (t.set path (.file content))

/-- Moves a file, over one that is there. -/
def move (t : FileTree) (source target : Path) : Except FileFault FileTree := do
  let content ← t.read source
  (t.erase source).write target content

/-- Removes a file, or a directory with everything below it. -/
def remove (t : FileTree) (path : Path) : Except FileFault FileTree :=
  match t.wayFault? [] path with
  | some fault => .error fault
  | none => if (t.get? path).isNone then .error .missing else .ok (t.without path.isPrefixOf)

/-! ### Listing -/

/-- An entry as it is listed: the names on the way to it, and a slash
after a directory. -/
def listed (path : Path) (entry : Entry) : String :=
  let names := String.intercalate "/" path
  match entry with
  | .directory => names ++ "/"
  | .file _ => names

/-- Everything below a directory in the order of what is listed, with
paths from there. -/
def below (t : FileTree) (path : Path) : List (Path × Entry) :=
  let inside := t.entries.filter fun entry =>
    path.isPrefixOf entry.1 && path.length < entry.1.length
  (inside.map fun entry => (entry.1.drop path.length, entry.2)).mergeSort fun a b =>
    decide (listed a.1 a.2 ≤ listed b.1 b.2)

/-! ### Writing and reading -/

/-- Only the directories on a way matter for what is wrong with it. -/
theorem wayFault?_congr {t u : FileTree} {front way : Path}
    (h : ∀ k, k < way.length → t.get? (front ++ way.take k) = u.get? (front ++ way.take k)) :
    t.wayFault? front way = u.wayFault? front way := by
  induction way generalizing front with
  | nil => rfl
  | cons name rest ih =>
      have h0 : t.get? front = u.get? front := by simpa using h 0 (by simp)
      have hrest : t.wayFault? (front ++ [name]) rest = u.wayFault? (front ++ [name]) rest :=
        ih fun k hk => by
          have := h (k + 1) (by simpa using hk)
          simpa using this
      simp only [wayFault?, h0, hrest]

/-- A file that could be written reads what was written. -/
theorem read_write {t u : FileTree} {path : Path} {content : List UInt8}
    (h : t.write path content = .ok u) : u.read path = .ok content := by
  unfold write at h
  split at h
  · exact absurd h (by simp)
  · rename_i hway
    split at h
    · exact absurd h (by simp)
    · rename_i hdir
      have hne : path ≠ [] := by
        rintro rfl
        exact hdir rfl
      simp only [Except.ok.injEq] at h
      subst h
      have hself : (t.set path (.file content)).get? path = some (.file content) := by
        rw [get?_set t path _ hne, if_pos rfl]
      have hfault : (t.set path (.file content)).wayFault? [] path = none := by
        rw [← hway]
        refine wayFault?_congr fun k hk => ?_
        rw [List.nil_append, get?_set t _ _ hne, if_neg]
        intro he
        have := congrArg List.length he
        rw [List.length_take] at this
        omega
      simp only [read, hfault, hself]

end FileTree

end BindingCompiler
