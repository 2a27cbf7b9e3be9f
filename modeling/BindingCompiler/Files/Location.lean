import BindingCompiler.Files.Basic
import BindingCompiler.Text.Split

/-!
# `BindingCompiler.Files.Location`: paths as they are written

A written path goes from the root, if it begins with a slash, or from
the working directory. A point stands for the directory it is in, two
points for the one above; repeated slashes count as one. Each step but
the last needs a directory to start from.

* `locate_isSome`: a path that is located has something at it.
-/

set_option autoImplicit false

namespace BindingCompiler

namespace FileTree

/-- The steps of a written path. -/
def steps (written : String) : List String :=
  (Text.segments '/' written.toList).map String.ofList

/-- Where a written path starts. -/
def startOf (written : String) (working : Path) : Path :=
  if written.toList.head? = some '/' then [] else working

/-- Where the steps lead from a path. -/
def follow (t : FileTree) (front : Path) : List String → Except FileFault Path
  | [] => .ok front
  | step :: rest =>
    match t.get? front with
    | none => .error .missing
    | some (.file _) => .error .underFile
    | some .directory =>
      if step = "" ∨ step = "." then t.follow front rest
      else if step = ".." then t.follow front.dropLast rest
      else if nameLimit < step.utf8ByteSize then .error .nameTooLong
      else t.follow (front ++ [step]) rest

/-- The path of something that is there, from the root and without detours. -/
def locate (t : FileTree) (working : Path) (written : String) : Except FileFault Path :=
  if written.isEmpty then .error .missing
  else
    match t.follow (startOf written working) (steps written) with
    | .error fault => .error fault
    | .ok path => if (t.get? path).isSome then .ok path else .error .missing

/-- Makes the directories on a way that are not there yet; tells what
stopped it. -/
def makeWay (t : FileTree) (front : Path) : List String → FileTree × Option FileFault
  | [] => (t, none)
  | step :: rest =>
    if step = "" ∨ step = "." then t.makeWay front rest
    else if step = ".." then t.makeWay front.dropLast rest
    else if nameLimit < step.utf8ByteSize then (t, some .nameTooLong)
    else
      match t.get? (front ++ [step]) with
      | some .directory => t.makeWay (front ++ [step]) rest
      | some (.file _) => (t, some (if rest.isEmpty then .occupied else .underFile))
      | none => (t.set (front ++ [step]) .directory).makeWay (front ++ [step]) rest

/-- How many bytes the text of a path has at most. -/
def textLimit : Nat := 4095

/-- Makes a directory and those on the way to it. -/
def makeDirectories (t : FileTree) (front : Path) (way : List String) :
    FileTree × Option FileFault :=
  if textLimit < (Path.text (front ++ way)).utf8ByteSize then (t, some .nameTooLong)
  else t.makeWay front way

/-- Where the steps lead from a path when all directories on the way are made. -/
def destinationFrom (front : Path) : List String → Path
  | [] => front
  | step :: rest =>
    if step = "" ∨ step = "." then destinationFrom front rest
    else if step = ".." then destinationFrom front.dropLast rest
    else destinationFrom (front ++ [step]) rest

/-- The path of a directory that may have to be made. -/
def destination (working : Path) (written : String) : Path :=
  destinationFrom (startOf written working) (steps written)

/-- Whether a written path stays below the directory it starts from: it
does not start at the root and has no step up. -/
def staysBelow (written : String) : Bool :=
  written.toList.head? != some '/' && !(steps written).contains ".."

/-- A path that is located has something at it. -/
theorem locate_isSome {t : FileTree} {working path : Path} {written : String}
    (h : t.locate working written = .ok path) : (t.get? path).isSome := by
  unfold locate at h
  split at h
  · exact absurd h (by simp)
  · split at h
    · exact absurd h (by simp)
    · split at h
      · rename_i hs
        simp only [Except.ok.injEq] at h
        exact h ▸ hs
      · exact absurd h (by simp)

end FileTree

end BindingCompiler
