import BindingCompiler.Files.Location
import BindingCompiler.Proofs.Text.Utf8

/-!
# `BindingCompiler.Proofs.Files.Changes`: what operations leave of a tree

Every operation that the generator uses keeps the directories of a tree (`KeepsDirectories`):
a directory is never removed, and a file is never put where a directory is. This is what
carries facts about a path from one operation to the next, because a path is read through the
directories on its way.

* `replaces_of_move`: a file that is written beside its place and moved there. It holds the
  content afterwards, and every path but these two is as before.
* `makes_of_makeDirectories`: directories that are made. Every path is as before, but for new
  directories on the way where nothing was. They are there to stay: as long as no directory
  is removed, making them again changes nothing.
-/

set_option autoImplicit false

namespace BindingCompiler.FileTree

/-! ### Lookups -/

/-- After a path is erased, nothing is there and no other path has changed. -/
theorem get?_erase (t : FileTree) {path : Path} (other : Path) (h : path ≠ []) :
    (t.erase path).get? other = if path = other then none else t.get? other := by
  by_cases ho : other = []
  · subst ho
    rw [if_neg h]
    rfl
  · have hget (u : FileTree) : u.get? other = u.entries.lookup other := by
      cases other with
      | nil => exact absurd rfl ho
      | cons _ _ => rfl
    rw [hget, hget]
    unfold erase without
    by_cases hp : path = other
    · subst hp
      rw [if_pos rfl, List.lookup_eq_none_iff]
      intro entry hentry
      have hkept := (List.mem_filter.mp hentry).2
      simpa using Ne.symm (by simpa using hkept)
    · rw [if_neg hp]
      exact @lookup_filter t.entries (· == path) other (by simpa using Ne.symm hp)

variable {t u v : FileTree} {path : Path} {content : List UInt8}

/-- What can be read is a file, and all on the way to it are directories. -/
theorem read_eq_ok_iff :
    t.read path = .ok content ↔ t.wayFault? [] path = none ∧ t.get? path = some (.file content) := by
  unfold read
  cases t.wayFault? [] path with
  | some fault => simp
  | none =>
      cases t.get? path with
      | none => simp
      | some entry => cases entry <;> simp

/-- A text can be read exactly if the file holds its bytes. -/
theorem readText_eq_ok_iff {s : String} :
    t.readText path = .ok s ↔ t.read path = .ok (Text.encode s) := by
  unfold readText
  cases hread : t.read path with
  | error fault => simp [bind, Except.bind]
  | ok bytes =>
      cases hdecode : Text.decode bytes with
      | error fault =>
          have hno : bytes ≠ Text.encode s := fun h => by
            rw [Text.decode_eq_ok_iff.mpr h] at hdecode
            exact absurd hdecode (by simp)
          simp [bind, Except.bind, hdecode, hno, throw, throwThe, MonadExceptOf.throw]
      | ok text =>
          have hbytes : bytes = Text.encode s ↔ text = s := by
            rw [← Text.decode_eq_ok_iff, hdecode, Except.ok.injEq]
          simp [bind, Except.bind, hdecode, hbytes, pure, Except.pure]

/-- A file is written where there is no directory, and where directories lead. -/
theorem write_eq_ok_iff :
    t.write path content = .ok u ↔ t.wayFault? [] path = none ∧ t.get? path ≠ some .directory
      ∧ t.set path (.file content) = u := by
  unfold write isDirectory
  cases t.wayFault? [] path with
  | some fault => simp
  | none => by_cases h : t.get? path = some .directory <;> simp [h]

/-! ### Directories -/

/-- The directories of a tree are directories of another one too. -/
def KeepsDirectories (t u : FileTree) : Prop :=
  ∀ p, t.get? p = some .directory → u.get? p = some .directory

/-- A tree keeps its own directories. -/
theorem KeepsDirectories.refl (t : FileTree) : t.KeepsDirectories t := fun _ h => h

/-- What keeps directories step by step keeps them altogether. -/
theorem KeepsDirectories.trans (htu : t.KeepsDirectories u) (huv : u.KeepsDirectories v) :
    t.KeepsDirectories v :=
  fun p h => huv p (htu p h)

/-- A way through directories stays one. -/
theorem KeepsDirectories.wayFault?_eq_none (h : t.KeepsDirectories u) {front way : Path}
    (hway : t.wayFault? front way = none) : u.wayFault? front way = none := by
  induction way generalizing front with
  | nil => rfl
  | cons name rest ih =>
      -- Each step of the way looks up one directory, which is kept.
      unfold wayFault? at hway ⊢
      split at hway
      · exact absurd hway (by simp)
      · exact absurd hway (by simp)
      · rename_i hfront
        split at hway
        · exact absurd hway (by simp)
        · rename_i hname
          rw [h front hfront]
          simp only [if_neg hname]
          exact ih hway

/-- A file that is left as it is reads as before, if directories are kept. -/
theorem KeepsDirectories.read (h : t.KeepsDirectories u) (hget : u.get? path = t.get? path)
    (hread : t.read path = .ok content) : u.read path = .ok content := by
  obtain ⟨hway, hfile⟩ := read_eq_ok_iff.mp hread
  exact read_eq_ok_iff.mpr ⟨h.wayFault?_eq_none hway, hget.trans hfile⟩

/-! ### Replacing a file -/

/-- A tree in which the target holds the content and all but the target and one path beside
it is as before. -/
structure Replaces (t : FileTree) (temporary target : Path) (content : List UInt8)
    (u : FileTree) : Prop where
  keeps : t.KeepsDirectories u
  read : u.read target = .ok content
  frame : ∀ p, p ≠ target → p ≠ temporary → u.get? p = t.get? p

/-- The root is a directory, so what is none is below it. -/
theorem ne_nil_of_get? (h : t.get? path ≠ some .directory) : path ≠ [] := by
  rintro rfl
  exact h rfl

/-- A file that is written beside its place and moved there replaces what was there. -/
theorem replaces_of_move {temporary target : Path} (hwrite : t.write temporary content = .ok u)
    (hmove : u.move temporary target = .ok v) : t.Replaces temporary target content v := by
  have hread := read_write hwrite
  obtain ⟨-, htemporary, rfl⟩ := write_eq_ok_iff.mp hwrite
  have hmove : ((t.set temporary (.file content)).erase temporary).write target content
      = .ok v := by
    rw [move, hread] at hmove
    exact hmove
  have hwritten := read_write hmove
  obtain ⟨-, htarget, rfl⟩ := write_eq_ok_iff.mp hmove
  have hget : ∀ p, p ≠ temporary →
      ((t.set temporary (.file content)).erase temporary).get? p = t.get? p := by
    intro p hp
    have hne := ne_nil_of_get? htemporary
    rw [get?_erase _ _ hne, if_neg (Ne.symm hp), get?_set _ _ _ hne, if_neg (Ne.symm hp)]
  have hframe : ∀ p, p ≠ target → p ≠ temporary →
      (((t.set temporary (.file content)).erase temporary).set target (.file content)).get? p
        = t.get? p := by
    intro p hp hother
    rw [get?_set _ _ _ (ne_nil_of_get? htarget), if_neg (Ne.symm hp), hget p hother]
  refine ⟨?_, hwritten, hframe⟩
  intro p hp
  -- Neither of the two paths was a directory.
  have hother : p ≠ temporary := fun h => htemporary (h ▸ hp)
  have hplace : p ≠ target := fun h => htarget (h ▸ (hget p hother).trans hp)
  rw [hframe p hplace hother, hp]

/-! ### Making directories -/

/-- A path that steps lead to, or the first ones of them. -/
def OnWay (front : Path) (way : List String) (p : Path) : Prop :=
  ∃ k, p = destinationFrom front (way.take k)

/-- A tree with the directories on a way. Where nothing was, there can be one of them now, and
all else is as before; to make them again changes nothing while directories are kept. -/
structure Makes (t : FileTree) (front : Path) (way : List String) (u : FileTree) : Prop where
  keeps : t.KeepsDirectories u
  frame : ∀ p, u.get? p = t.get? p
    ∨ t.get? p = none ∧ u.get? p = some .directory ∧ OnWay front way p
  again : ∀ v, u.KeepsDirectories v → v.makeWay front way = (v, none)

/-- A first step that leads on to where the directories are made. -/
theorem Makes.cons {front next : Path} {step : String} {rest : List String}
    (h : t.Makes next rest u)
    (hdestination : ∀ way, destinationFrom front (step :: way) = destinationFrom next way)
    (hagain : ∀ v, u.KeepsDirectories v → v.makeWay front (step :: rest) = v.makeWay next rest) :
    t.Makes front (step :: rest) u where
  keeps := h.keeps
  frame p := by
    refine (h.frame p).imp_right fun ⟨hnone, hnew, k, hk⟩ => ⟨hnone, hnew, k + 1, ?_⟩
    rw [List.take_succ_cons, hdestination, hk]
  again v hv := by rw [hagain v hv, h.again v hv]

/-- A first directory that was made where nothing was. -/
theorem Makes.of_set {front made : Path} {way : List String} (hnone : t.get? made = none)
    (hmade : OnWay front way made) (h : (t.set made .directory).Makes front way u) :
    t.Makes front way u := by
  have hne : made ≠ [] := by
    rintro rfl
    exact absurd hnone (by simp [get?])
  have hset : ∀ p, (t.set made .directory).get? p
      = if made = p then some .directory else t.get? p := fun p => get?_set t p _ hne
  refine ⟨?_, ?_, h.again⟩
  · intro p hp
    refine h.keeps p ?_
    have hother : made ≠ p := by
      rintro rfl
      rw [hnone] at hp
      exact absurd hp (by simp)
    rw [hset, if_neg hother, hp]
  · intro p
    by_cases hp : made = p
    · subst hp
      exact .inr ⟨hnone, h.keeps made (by rw [hset, if_pos rfl]), hmade⟩
    · have hframe := h.frame p
      rwa [hset, if_neg hp] at hframe

/-- Directories that could be made are there. -/
theorem makes_of_makeWay {front : Path} {way : List String} (h : t.makeWay front way = (u, none)) :
    t.Makes front way u := by
  induction way generalizing t front with
  | nil =>
      cases h
      exact ⟨.refl _, fun p => .inl rfl, fun v _ => rfl⟩
  | cons step rest ih =>
      -- A step stays, leads up, or leads down to a directory that is there or is made.
      rw [makeWay] at h
      by_cases hstay : step = "" ∨ step = "."
      · rw [if_pos hstay] at h
        refine (ih h).cons (fun way => ?_) fun v _ => ?_
        · rw [destinationFrom, if_pos hstay]
        · rw [makeWay, if_pos hstay]
      rw [if_neg hstay] at h
      by_cases hup : step = ".."
      · rw [if_pos hup] at h
        refine (ih h).cons (fun way => ?_) fun v _ => ?_
        · rw [destinationFrom, if_neg hstay, if_pos hup]
        · rw [makeWay, if_neg hstay, if_pos hup]
      rw [if_neg hup] at h
      by_cases hlong : nameLimit < step.utf8ByteSize
      · rw [if_pos hlong] at h
        exact absurd h (by simp)
      rw [if_neg hlong] at h
      have hdown : ∀ way, destinationFrom front (step :: way)
          = destinationFrom (front ++ [step]) way := by
        intro way
        rw [destinationFrom, if_neg hstay, if_neg hup]
      have hagain : u.get? (front ++ [step]) = some .directory → ∀ v, u.KeepsDirectories v →
          v.makeWay front (step :: rest) = v.makeWay (front ++ [step]) rest := by
        intro hthere v hv
        rw [makeWay, if_neg hstay, if_neg hup, if_neg hlong, hv _ hthere]
      cases hget : t.get? (front ++ [step]) with
      | none =>
          rw [hget] at h
          have hrest := ih h
          have hthere : (t.set (front ++ [step]) .directory).get? (front ++ [step])
              = some .directory := by rw [get?_set _ _ _ (by simp), if_pos rfl]
          refine (hrest.cons hdown (hagain (hrest.keeps _ hthere))).of_set hget ⟨1, ?_⟩
          rw [List.take_succ_cons, List.take_zero, hdown, destinationFrom]
      | some entry =>
          rw [hget] at h
          cases entry with
          | file content => exact absurd h (by simp)
          | directory =>
              have hrest := ih h
              exact hrest.cons hdown (hagain (hrest.keeps _ hget))

/-- Directories that could be made from a path on are made again without a change. -/
theorem makes_of_makeDirectories {front : Path} {way : List String}
    (h : t.makeDirectories front way = (u, none)) :
    t.Makes front way u ∧ ∀ v, u.KeepsDirectories v → v.makeDirectories front way = (v, none) := by
  unfold makeDirectories at h ⊢
  split at h
  · exact absurd h (by simp)
  · rename_i hlimit
    have hmakes := makes_of_makeWay h
    refine ⟨hmakes, ?_⟩
    intro v hv
    rw [if_neg hlimit, hmakes.again v hv]

end BindingCompiler.FileTree
