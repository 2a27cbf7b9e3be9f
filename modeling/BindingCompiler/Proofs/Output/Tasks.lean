import BindingCompiler.Proofs.Files.Changes
import BindingCompiler.Proofs.Output.Names

/-!
# `BindingCompiler.Proofs.Output.Tasks`: what a run does to the tree

Once all classes are planned, a run is a list of tasks: directories are made and files are
written (`generateAll_eq`). `Performs` says what a list of tasks reports and leaves of a tree.
`performs_of_perform` shows it for a single task and `Performs.append` for two parts of a run,
so `performs_of_performAll` holds of a whole run.

The second part must not touch what the first part wrote. This is the hypothesis of
`Performs.append`: the paths of the files are apart, those of the files that are not in their
place yet included.

A task that was performed is settled: it has nothing left to do. It stays settled while
directories are kept and its file is left alone (`Settled.mono`), and to perform settled tasks
changes nothing (`Performs.again`).
-/

set_option autoImplicit false

namespace BindingCompiler

/-! ### Computations on a file tree -/

namespace Generation

/-- The result of a computation and the tree that it leaves. -/
def outcome {α : Type} (x : Generation α) (t : FileTree) : Except GenerateError α × FileTree :=
  x.run.run t

section
variable {α β : Type} {t u : FileTree}

/-- Two computations are made one after the other, unless the first one fails. -/
theorem outcome_bind (x : Generation α) (f : α → Generation β) (t : FileTree) :
    (x >>= f).outcome t = match x.outcome t with
      | (.ok a, u) => (f a).outcome u
      | (.error e, u) => (.error e, u) := by
  unfold outcome
  rw [ExceptT.run_bind, StateT.run_bind]
  rcases hx : x.run.run t with ⟨result, u⟩
  cases result <;> rfl

/-- Two computations lead to a result if the second one does from where the first one led. -/
theorem outcome_bind_eq_ok_iff {x : Generation α} {f : α → Generation β} {b : β} {v : FileTree} :
    (x >>= f).outcome t = (.ok b, v)
      ↔ ∃ a u, x.outcome t = (.ok a, u) ∧ (f a).outcome u = (.ok b, v) := by
  rw [outcome_bind]
  rcases x.outcome t with ⟨result, u⟩
  cases result with
  | error e => simp
  | ok a => simp

-- Each computation that is no sequence leaves the tree as it is, but for `set`.

/-- A value leaves the tree as it is. -/
@[simp] theorem outcome_pure (a : α) (t : FileTree) :
    (pure a : Generation α).outcome t = (.ok a, t) := rfl

/-- So does an error. -/
@[simp] theorem outcome_throw (e : GenerateError) (t : FileTree) :
    (throw e : Generation α).outcome t = (.error e, t) := rfl

/-- The tree can be looked at. -/
@[simp] theorem outcome_get (t : FileTree) :
    (get : Generation FileTree).outcome t = (.ok t, t) := rfl

/-- The tree can be replaced. -/
@[simp] theorem outcome_set (s t : FileTree) :
    (set s : Generation Unit).outcome t = (.ok (), s) := rfl

/-- What does not depend on the tree leaves it as it is. -/
@[simp] theorem outcome_liftM (x : Except GenerateError α) (t : FileTree) :
    (liftM x : Generation α).outcome t = (x, t) := rfl

end

end Generation

namespace Output

open FileTree Generation

variable {o : Output} {t u v : FileTree}

/-! ### Directories and files -/

/-- The directory that a path below the output directory stands in, on the way from where the
output directory is written from. -/
def way (o : Output) (below : Path) : List String := steps o.written ++ below

/-- A directory is made if the tree can be changed so, from the place where the output starts. -/
theorem outcome_makeDirectory_eq_ok_iff {below : Path} :
    (o.makeDirectory below).outcome t = (.ok (), u)
      ↔ t.makeDirectories (startOf o.written o.working) (o.way below) = (u, none) := by
  unfold makeDirectory way
  rw [outcome_bind, outcome_get]
  dsimp only
  rcases t.makeDirectories (startOf o.written o.working) (steps o.written ++ below)
    with ⟨made, fault?⟩
  cases fault? with
  | none =>
      show (((.ok () : Except GenerateError Unit), made) = (.ok (), u)) ↔ _
      simp
  | some fault =>
      show (((.error _ : Except GenerateError Unit), made) = (.ok (), u)) ↔ _
      simp

/-- A change succeeds if it succeeds on the tree, and gives the tree that it makes. -/
theorem outcome_change_eq_ok_iff {below : Path} {f : FileTree → Except FileFault FileTree} :
    (o.change below f).outcome t = (.ok (), u) ↔ f t = .ok u := by
  unfold change
  rw [outcome_bind, outcome_get]
  dsimp only
  cases f t <;> simp

/-- Puts a text in the place of a file, by way of another file beside it. -/
def replaceFile (o : Output) (directory : Path) (name text : String) : Generation GeneratedFile := do
  let below := directory ++ [name]
  let temporary := o.place ++ directory ++ [temporaryName name]
  o.change below fun t => t.write temporary (Text.encode text)
  o.change below fun t => t.move temporary (o.place ++ below)
  return ⟨o.report below, true⟩

/-- A file that holds the text already is left alone, and one that cannot be read too. -/
theorem outcome_writeFile (o : Output) (directory : Path) (name text : String) (t : FileTree) :
    (o.writeFile directory name text).outcome t
      = match t.readText (o.place ++ (directory ++ [name])) with
        | .ok old =>
          if old = text then (.ok ⟨o.report (directory ++ [name]), false⟩, t)
          else (o.replaceFile directory name text).outcome t
        | .error fault =>
          if fault = .missing then (o.replaceFile directory name text).outcome t
          else (.error (.write (o.report (directory ++ [name])) fault), t) := by
  unfold writeFile
  dsimp only
  rw [outcome_bind, outcome_get]
  dsimp only
  cases t.readText (o.place ++ (directory ++ [name])) with
  | ok old => by_cases h : old = text <;> simp only [h, if_true, if_false] <;> rfl
  | error fault => cases fault <;> rfl

/-- A file that is replaced holds the text. -/
theorem replaces_of_replaceFile {directory : Path} {name text : String} {f : GeneratedFile}
    (h : (o.replaceFile directory name text).outcome t = (.ok f, v)) :
    f.path = o.report (directory ++ [name])
      ∧ t.Replaces (o.place ++ directory ++ [temporaryName name]) (o.place ++ (directory ++ [name]))
        (Text.encode text) v := by
  obtain ⟨⟨⟩, u, hwrite, h⟩ := outcome_bind_eq_ok_iff.mp h
  obtain ⟨⟨⟩, w, hmove, h⟩ := outcome_bind_eq_ok_iff.mp h
  cases h
  have hwrite := outcome_change_eq_ok_iff.mp hwrite
  have hmove := outcome_change_eq_ok_iff.mp hmove
  exact ⟨rfl, replaces_of_move hwrite hmove⟩

/-- A file that is written holds the text, and all but it and the file beside it is as
before. -/
theorem replaces_of_writeFile {directory : Path} {name text : String} {f : GeneratedFile}
    (h : (o.writeFile directory name text).outcome t = (.ok f, u)) :
    f.path = o.report (directory ++ [name])
      ∧ t.Replaces (o.place ++ directory ++ [temporaryName name]) (o.place ++ (directory ++ [name]))
        (Text.encode text) u := by
  rw [outcome_writeFile] at h
  split at h
  · rename_i old hold
    split at h
    · -- The text is there already, so the tree is its own replacement.
      rename_i hsame
      cases h
      have hread := readText_eq_ok_iff.mp (hsame ▸ hold)
      exact ⟨rfl, .refl _, hread, fun p _ _ => rfl⟩
    · exact replaces_of_replaceFile h
  · split at h
    · exact replaces_of_replaceFile h
    · exact absurd h (by simp)

/-- A file that holds the text is not written. -/
theorem outcome_writeFile_of_read {directory : Path} {name text : String}
    (h : t.read (o.place ++ (directory ++ [name])) = .ok (Text.encode text)) :
    (o.writeFile directory name text).outcome t
      = (.ok ⟨o.report (directory ++ [name]), false⟩, t) := by
  rw [outcome_writeFile, readText_eq_ok_iff.mpr h]
  exact if_pos rfl

/-! ### Tasks -/

/-- A part of a run: a directory is made, or a file is written. -/
inductive Task where
  | directory (below : Path)
  | file (d : Document)

/-- The file that a task writes. -/
def Task.document? : Task → Option Document
  | .directory _ => none
  | .file d => some d

/-- Performs a task. -/
def perform (o : Output) : Task → Generation (List GeneratedFile)
  | .directory below => do
    o.makeDirectory below
    return []
  | .file d => do return [← o.writeFile d.directory d.name d.text]

/-- Performs tasks in turn. -/
def performAll (o : Output) : List Task → Generation (List GeneratedFile)
  | [] => return []
  | task :: rest => do
    let files ← o.perform task
    return files ++ (← o.performAll rest)

/-- The tasks of a plan. -/
def planTasks (o : Output) (p : Plan) : List Task :=
  .directory (packageSteps p.binding) :: (o.documents p).map .file

/-- The tasks of a run for some plans. -/
def tasks (o : Output) (plans : List Plan) : List Task :=
  plans.flatMap o.planTasks
    ++ [.directory (packageSteps factoryType), .file (factoryDocument plans)]

/-- Tasks are performed in two parts. -/
theorem performAll_append (o : Output) (first rest : List Task) :
    o.performAll (first ++ rest) = do
      let files ← o.performAll first
      return files ++ (← o.performAll rest) := by
  induction first with
  | nil => simp [performAll]
  | cons task more ih =>
      simp only [performAll, List.cons_append, ih, bind_assoc, pure_bind, List.append_assoc]

/-- A plan is written by its tasks. -/
theorem writePlan_eq (o : Output) (p : Plan) : o.writePlan p = o.performAll (o.planTasks p) := by
  unfold writePlan planTasks documents
  cases o.withPlans <;> simp [performAll, perform, Document.directory, Document.name]

/-- The factory is written by its tasks. -/
theorem writeFactory_eq (o : Output) (plans : List Plan) :
    (do return [← o.writeFactory plans] : Generation (List GeneratedFile))
      = o.performAll [.directory (packageSteps factoryType), .file (factoryDocument plans)] := by
  unfold writeFactory factoryDocument
  simp [performAll, perform, Document.directory, Document.name]

/-- All files are generated by planning all classes and performing the tasks of the plans. -/
theorem generateAll_eq (o : Output) (r : Registry) (classes : List MarkedClass) :
    o.generateAll r classes
      = (liftM (classes.mapM (plan r)) >>= fun plans => o.performAll (o.tasks plans)) := by
  have hplans : ∀ plans : List Plan, (do return (← plans.mapM o.writePlan).flatten)
      = o.performAll (plans.flatMap o.planTasks) := by
    intro plans
    induction plans with
    | nil => rfl
    | cons p rest ih =>
        rw [List.flatMap_cons, performAll_append, ← ih, ← writePlan_eq]
        simp
  unfold generateAll
  refine bind_congr ?_
  intro plans
  rw [tasks, performAll_append, ← hplans, ← writeFactory_eq]
  simp

/-! ### What tasks do -/

/-- Where a file is. -/
def target (o : Output) (d : Document) : Path := o.place ++ d.below

/-- Where a file is before it is moved to its place. -/
def temporary (o : Output) (d : Document) : Path :=
  o.place ++ d.directory ++ [temporaryName d.name]

/-- The files of some tasks. -/
def documentsOf (tasks : List Task) : List Document := tasks.filterMap Task.document?

/-- The documents of tasks in two parts are those of each part. -/
theorem documentsOf_append (first rest : List Task) :
    documentsOf (first ++ rest) = documentsOf first ++ documentsOf rest :=
  List.filterMap_append

/-- The document of the first task stands before those of the others. -/
theorem documentsOf_cons (task : Task) (rest : List Task) :
    documentsOf (task :: rest) = documentsOf [task] ++ documentsOf rest :=
  documentsOf_append [task] rest

/-- A task has nothing left to do, as long as directories are kept. -/
def Settled (o : Output) (t : FileTree) : Task → Prop
  | .directory below => ∀ u, t.KeepsDirectories u →
      u.makeDirectories (startOf o.written o.working) (o.way below) = (u, none)
  | .file d => t.read (o.target d) = .ok (Text.encode d.text)

/-- What tasks that are performed report and leave. -/
structure Performs (o : Output) (tasks : List Task) (t : FileTree) (files : List GeneratedFile)
    (u : FileTree) : Prop where
  reported : files.map GeneratedFile.path = (documentsOf tasks).map fun d => o.report d.below
  settled : ∀ task ∈ tasks, o.Settled u task
  keeps : t.KeepsDirectories u
  /-- Besides the files and those beside them, there can only be new directories. -/
  frame : ∀ p, (∀ d ∈ documentsOf tasks, p ≠ o.target d ∧ p ≠ o.temporary d) →
    u.get? p = t.get? p ∨ t.get? p = none ∧ u.get? p = some .directory
      ∧ ∃ below, .directory below ∈ tasks ∧ OnWay (startOf o.written o.working) (o.way below) p

/-- What a single task does. -/
theorem performs_of_perform {task : Task} {files : List GeneratedFile}
    (h : (o.perform task).outcome t = (.ok files, u)) : o.Performs [task] t files u := by
  cases task with
  | directory below =>
      obtain ⟨⟨⟩, w, hmake, h⟩ := outcome_bind_eq_ok_iff.mp h
      cases h
      obtain ⟨hmakes, hagain⟩ :=
        makes_of_makeDirectories (outcome_makeDirectory_eq_ok_iff.mp hmake)
      refine ⟨rfl, List.forall_mem_singleton.mpr hagain, hmakes.keeps, ?_⟩
      intro p _
      obtain hsame | ⟨hnone, hnew, hway⟩ := hmakes.frame p
      · exact .inl hsame
      · exact .inr ⟨hnone, hnew, below, List.mem_singleton_self _, hway⟩
  | file d =>
      obtain ⟨f, w, hwrite, h⟩ := outcome_bind_eq_ok_iff.mp h
      cases h
      obtain ⟨hpath, hreplaces⟩ := replaces_of_writeFile hwrite
      have hreported : [f].map GeneratedFile.path = [o.report d.below] :=
        congrArg (fun path => [path]) hpath
      refine ⟨hreported, List.forall_mem_singleton.mpr hreplaces.read, hreplaces.keeps, ?_⟩
      intro p hp
      obtain ⟨htarget, htemporary⟩ := hp d (List.mem_singleton_self d)
      exact .inl (hreplaces.frame p htarget htemporary)

/-- A task stays settled while directories are kept and its file is left alone. -/
theorem Settled.mono {task : Task} (h : o.Settled t task) (hkeeps : t.KeepsDirectories u)
    (hfile : ∀ d, task.document? = some d → u.get? (o.target d) = t.get? (o.target d)) :
    o.Settled u task := by
  cases task with
  | directory below =>
      intro v hv
      exact h v (hkeeps.trans hv)
  | file d => exact hkeeps.read (hfile d rfl) h

/-- Of two parts of a run, the second one leaves the files of the first alone, if their paths
are apart. -/
theorem Performs.append {first rest : List Task} {files more : List GeneratedFile}
    (hfirst : o.Performs first t files u) (hrest : o.Performs rest u more v)
    (hapart : ∀ d ∈ documentsOf first, ∀ d' ∈ documentsOf rest,
      o.target d ≠ o.target d' ∧ o.target d ≠ o.temporary d') :
    o.Performs (first ++ rest) t (files ++ more) v := by
  constructor
  · rw [List.map_append, hfirst.reported, hrest.reported, documentsOf_append, List.map_append]
  · refine List.forall_mem_append.mpr ⟨?_, hrest.settled⟩
    intro task htask
    refine (hfirst.settled task htask).mono hrest.keeps ?_
    intro d hd
    have hmem : d ∈ documentsOf first := List.mem_filterMap.mpr ⟨task, htask, hd⟩
    obtain hsame | ⟨hnone, -, -⟩ := hrest.frame (o.target d) (hapart d hmem)
    · exact hsame
    · -- The file is there, so no directory can be new in its place.
      cases task with
      | directory below => exact absurd hd (by simp [Task.document?])
      | file e =>
          cases hd
          have hfile := (read_eq_ok_iff.mp (hfirst.settled _ htask)).2
          exact absurd (hnone.symm.trans hfile) (by simp)
  · exact hfirst.keeps.trans hrest.keeps
  · intro p hp
    rw [documentsOf_append, List.forall_mem_append] at hp
    obtain ⟨hp, hp'⟩ := hp
    obtain hsame | ⟨hnone, hnew, below, hbelow, hway⟩ := hrest.frame p hp'
    · rw [hsame]
      obtain hbefore | ⟨hnone, hnew, below, hbelow, hway⟩ := hfirst.frame p hp
      · exact .inl hbefore
      · exact .inr ⟨hnone, hnew, below, List.mem_append_left _ hbelow, hway⟩
    · -- Nothing was there after the first part, so the first part made nothing there.
      obtain hbefore | ⟨-, hthere, -⟩ := hfirst.frame p hp
      · exact .inr ⟨hbefore ▸ hnone, hnew, below, List.mem_append_right _ hbelow, hway⟩
      · exact absurd (hnone.symm.trans hthere) (by simp)

/-- What a run of tasks does, if the paths of their files are apart. -/
theorem performs_of_performAll {tasks : List Task} {files : List GeneratedFile}
    (hapart : (documentsOf tasks).Pairwise fun d d' =>
      o.target d ≠ o.target d' ∧ o.target d ≠ o.temporary d')
    (h : (o.performAll tasks).outcome t = (.ok files, u)) : o.Performs tasks t files u := by
  induction tasks generalizing t files with
  | nil =>
      cases h
      exact ⟨rfl, by simp, .refl _, fun p _ => .inl rfl⟩
  | cons task rest ih =>
      -- The paths are apart within the rest, and between the task and the rest.
      obtain ⟨first, w, hfirst, h⟩ := outcome_bind_eq_ok_iff.mp h
      obtain ⟨more, w', hrest, h⟩ := outcome_bind_eq_ok_iff.mp h
      cases h
      rw [documentsOf_cons, List.pairwise_append] at hapart
      obtain ⟨-, hlater, hbetween⟩ := hapart
      exact (performs_of_perform hfirst).append (ih hlater hrest) hbetween

/-- Tasks that are settled are performed without a change. -/
theorem outcome_performAll_of_settled {tasks : List Task} (h : ∀ task ∈ tasks, o.Settled t task) :
    (o.performAll tasks).outcome t
      = (.ok ((documentsOf tasks).map fun d => ⟨o.report d.below, false⟩), t) := by
  induction tasks with
  | nil => rfl
  | cons task rest ih =>
      obtain ⟨htask, hrest⟩ := List.forall_mem_cons.mp h
      have hperform : (o.perform task).outcome t
          = (.ok ((documentsOf [task]).map fun d => ⟨o.report d.below, false⟩), t) := by
        cases task with
        | directory below =>
            have hmake := outcome_makeDirectory_eq_ok_iff.mpr (htask t (.refl t))
            exact outcome_bind_eq_ok_iff.mpr ⟨(), t, hmake, rfl⟩
        | file d =>
            exact outcome_bind_eq_ok_iff.mpr ⟨_, t, outcome_writeFile_of_read htask, rfl⟩
      refine outcome_bind_eq_ok_iff.mpr ⟨_, t, hperform, ?_⟩
      refine outcome_bind_eq_ok_iff.mpr ⟨_, t, ih hrest, ?_⟩
      rw [outcome_pure, documentsOf_cons task rest, List.map_append]

/-- To perform tasks again reports the same files as unchanged, and changes nothing. -/
theorem Performs.again {tasks : List Task} {files : List GeneratedFile}
    (h : o.Performs tasks t files u) :
    (o.performAll tasks).outcome u = (.ok (files.map fun f => ⟨f.path, false⟩), u) := by
  have hfiles := congrArg (List.map fun path => GeneratedFile.mk path false) h.reported
  rw [List.map_map, List.map_map] at hfiles
  rw [outcome_performAll_of_settled h.settled]
  exact congrArg (fun more => (Except.ok more, u)) hfiles.symm

end Output

end BindingCompiler
