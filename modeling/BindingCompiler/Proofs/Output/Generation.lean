import BindingCompiler.ClassPath.Android
import BindingCompiler.Proofs.Output.Tasks
import BindingCompiler.Proofs.Plan.Construction

/-!
# `BindingCompiler.Proofs.Output.Generation`: generating all files

`generateAll` plans every class before it touches the tree. So a class without a plan stops it
with the tree as it was, and the error names the first such class (`mapM_plan_cases`).

Otherwise the tasks of the plans are performed. `Generated` states what a successful run leaves:
the files of the plans in their order and the factory, each with exactly its text, and all other
paths as before. It rests on the names of the files (`pairwise_apart`): no file of the run is
written where another one is, or is about to be. To run it again changes nothing.

The hypotheses on the classes are those that a manifest guarantees. Their names were read
(`TypeName.IsRead`), and no two classes have the same name.
-/

set_option autoImplicit false

namespace BindingCompiler

namespace Output

open FileTree Generation

variable {o : Output} {r : Registry}

/-! ### Planning -/

/-- Either all classes are planned, in their order, or the first one without a plan is
reported. -/
theorem mapM_plan_cases (r : Registry) (classes : List MarkedClass) :
    (∃ plans, classes.mapM (plan r) = .ok plans
        ∧ List.Forall₂ (fun c p => Plan.build r c = .ok p) classes plans)
      ∨ ∃ before c after cause, classes = before ++ c :: after
        ∧ (∀ b ∈ before, ∃ p, Plan.build r b = .ok p) ∧ Plan.build r c = .error cause
        ∧ classes.mapM (plan r) = .error (.binding c.name cause) := by
  induction classes with
  | nil => exact .inl ⟨[], rfl, .nil⟩
  | cons c rest ih =>
      -- The class fails by itself, or the later classes decide.
      rw [List.mapM_cons]
      cases hc : Plan.build r c with
      | error cause =>
          have hplan : plan r c = .error (.binding c.name cause) := by rw [plan, hc]
          refine .inr ⟨[], c, rest, cause, rfl, by simp, hc, ?_⟩
          rw [hplan]
          rfl
      | ok p =>
          have hplan : plan r c = .ok p := by rw [plan, hc]
          rw [hplan]
          rcases ih with ⟨plans, hrest, hplans⟩ | ⟨before, d, after, cause, rfl, hbefore, hd, hrest⟩
          · refine .inl ⟨p :: plans, ?_, .cons hc hplans⟩
            rw [hrest]
            rfl
          · refine .inr ⟨c :: before, d, after, cause, rfl, ?_, hd, ?_⟩
            · exact List.forall_mem_cons.mpr ⟨⟨p, hc⟩, hbefore⟩
            · rw [hrest]
              rfl

/-- Each of the classes that are planned has a plan. -/
theorem exists_plan_of_mem {classes : List MarkedClass} {plans : List Plan}
    (h : List.Forall₂ (fun c p => Plan.build r c = .ok p) classes plans) {c : MarkedClass}
    (hc : c ∈ classes) : ∃ p, Plan.build r c = .ok p := by
  induction h with
  | nil => exact absurd hc (by simp)
  | @cons d p rest plans hbuild _ ih =>
      rcases List.mem_cons.mp hc with rfl | hc
      · exact ⟨p, hbuild⟩
      · exact ih hc

/-! ### The tasks of plans -/

/-- The tasks of a plan write its documents. -/
theorem documentsOf_planTasks (o : Output) (p : Plan) :
    documentsOf (o.planTasks p) = o.documents p := by
  show ((o.documents p).map Task.file).filterMap Task.document? = _
  rw [List.filterMap_map]
  exact List.filterMap_some

/-- The tasks of some plans write the documents of all of them. -/
theorem documentsOf_tasks (o : Output) (plans : List Plan) :
    documentsOf (o.tasks plans) = o.allDocuments plans := by
  have hplans : documentsOf (plans.flatMap o.planTasks) = plans.flatMap o.documents := by
    rw [documentsOf, List.filterMap_flatMap]
    exact List.flatMap_congr fun p _ => documentsOf_planTasks o p
  rw [tasks, documentsOf_append, hplans]
  rfl

/-- A directory that is made for some plans is one of their files. -/
theorem exists_of_directory_mem_tasks {plans : List Plan} {below : Path}
    (h : .directory below ∈ o.tasks plans) : ∃ d ∈ o.allDocuments plans, d.directory = below := by
  rcases List.mem_append.mp h with h | h
  · obtain ⟨p, hp, h⟩ := List.mem_flatMap.mp h
    rcases List.mem_cons.mp h with heq | h
    · cases heq
      refine ⟨⟨p.binding, ".java", Source.render p⟩, ?_, rfl⟩
      exact List.mem_append_left _ (List.mem_flatMap.mpr ⟨p, hp, List.mem_cons_self⟩)
    · exact absurd h (by simp)
  · rcases List.mem_cons.mp h with heq | h
    · cases heq
      exact ⟨factoryDocument plans, List.mem_append_right _ (List.mem_singleton_self _), rfl⟩
    · exact absurd h (by simp)

/-- No proper file is where another one is before it is moved to its place. -/
theorem target_ne_temporary {d : Document} (h : d.IsProper) (e : Document) :
    o.target d ≠ o.temporary e := by
  intro heq
  have hsplit : (o.place ++ d.directory) ++ [d.name]
      = (o.place ++ e.directory) ++ [temporaryName e.name] := by
    rw [List.append_assoc]
    exact heq
  have hlength : [d.name].length = [temporaryName e.name].length := by
    rw [List.length_singleton, List.length_singleton]
  obtain ⟨-, hname⟩ := List.append_inj' hsplit hlength
  exact ne_temporaryName h.extension_mem _ (List.singleton_inj.mp hname)

section
variable {targets : List TypeName} {plans : List Plan}

/-- The documents of distinct targets have distinct files, and none is written over the file that
another is prepared in. -/
theorem pairwise_apart (hplans : plans.map Plan.binding = targets.map bindingType)
    (htargets : ∀ t ∈ targets, t.IsRead) (hnodup : targets.Nodup) :
    (o.allDocuments plans).Pairwise fun d e =>
      o.target d ≠ o.target e ∧ o.target d ≠ o.temporary e := by
  have hbelow := List.pairwise_map.mp (nodup_map_below (o := o) hplans htargets hnodup)
  refine hbelow.imp_of_mem ?_
  intro d e hd _ hne
  constructor
  · intro heq
    exact hne (List.append_cancel_left heq)
  · exact target_ne_temporary (isProper_of_mem_allDocuments hplans htargets hd) e

end

/-! ### Runs -/

/-- What a run for some plans reports and leaves. -/
structure Generated (o : Output) (plans : List Plan) (t : FileTree) (files : List GeneratedFile)
    (u : FileTree) : Prop where
  /-- The files of each plan, in the order of the plans, and the factory last. -/
  reported : files.map GeneratedFile.path = (o.allDocuments plans).map fun d => o.report d.below
  distinct : (files.map GeneratedFile.path).Nodup
  /-- Each path that is reported leads to its file. -/
  leads : ∀ d ∈ o.allDocuments plans, destination o.working (o.report d.below) = o.target d
  /-- Each file holds exactly its text. -/
  holds : ∀ d ∈ o.allDocuments plans, u.read (o.target d) = .ok (Text.encode d.text)
  /-- All paths but the files and those beside them are as before, or nothing was there and they
  are directories on the way to a file now. -/
  frame : ∀ p, (∀ d ∈ o.allDocuments plans, p ≠ o.target d ∧ p ≠ o.temporary d) →
    u.get? p = t.get? p ∨ t.get? p = none ∧ u.get? p = some .directory
      ∧ ∃ d ∈ o.allDocuments plans, OnWay (startOf o.written o.working) (o.way d.directory) p

/-- Files are generated by performing the tasks of the plans. -/
theorem generated_of_performs {targets : List TypeName} {plans : List Plan} {t u : FileTree}
    {files : List GeneratedFile} (hplans : plans.map Plan.binding = targets.map bindingType)
    (htargets : ∀ name ∈ targets, name.IsRead) (hnodup : targets.Nodup)
    (h : o.Performs (o.tasks plans) t files u) : o.Generated plans t files u := by
  obtain ⟨hreported, hsettled, -, hframe⟩ := h
  rw [documentsOf_tasks] at hreported hframe
  refine ⟨hreported, hreported ▸ nodup_map_report hplans htargets hnodup, ?_, ?_, ?_⟩
  · intro d hd
    exact destination_report (isProper_of_mem_allDocuments hplans htargets hd)
  · intro d hd
    -- The file is one of a task, which is settled.
    rw [← documentsOf_tasks] at hd
    obtain ⟨task, htask, hfile⟩ := List.mem_filterMap.mp hd
    cases task with
    | directory below => exact absurd hfile (by simp [Task.document?])
    | file e =>
        cases hfile
        exact hsettled _ htask
  · intro p hp
    obtain hsame | ⟨hnone, hnew, below, hbelow, hway⟩ := hframe p hp
    · exact .inl hsame
    · obtain ⟨d, hd, rfl⟩ := exists_of_directory_mem_tasks hbelow
      exact .inr ⟨hnone, hnew, d, hd, hway⟩

/-- A class without a plan stops a run with the tree as it was, and the first one is reported.
A run that succeeds generates the files of the plans. To make it again from what it leaves
reports the same files as unchanged and leaves the tree as it is. -/
theorem outcome_generateAll (o : Output) (r : Registry) (classes : List MarkedClass) (t : FileTree)
    (hread : ∀ c ∈ classes, c.name.IsRead) (hnodup : (classes.map MarkedClass.name).Nodup) :
    ((∃ c ∈ classes, ∃ cause, Plan.build r c = .error cause) →
      ∃ before c after cause, classes = before ++ c :: after
        ∧ (∀ b ∈ before, ∃ p, Plan.build r b = .ok p) ∧ Plan.build r c = .error cause
        ∧ (o.generateAll r classes).outcome t = (.error (.binding c.name cause), t))
    ∧ ∀ files u, (o.generateAll r classes).outcome t = (.ok files, u) →
      ∃ plans, List.Forall₂ (fun c p => Plan.build r c = .ok p) classes plans
        ∧ plans.map Plan.binding = (classes.map MarkedClass.name).map bindingType
        ∧ o.Generated plans t files u
        ∧ (o.generateAll r classes).outcome u = (.ok (files.map fun f => ⟨f.path, false⟩), u) := by
  rw [generateAll_eq]
  rcases mapM_plan_cases r classes with ⟨plans, hmapM, hbuilds⟩ | hfails
  · rw [hmapM]
    constructor
    · rintro ⟨c, hc, cause, hcause⟩
      obtain ⟨p, hp⟩ := exists_plan_of_mem hbuilds hc
      exact absurd (hp.symm.trans hcause) (by simp)
    · intro files u h
      obtain ⟨_, _, hplanned, h⟩ := outcome_bind_eq_ok_iff.mp h
      rw [outcome_liftM] at hplanned
      cases hplanned
      obtain ⟨-, hbindings⟩ := Plan.targets_eq_of_builds hbuilds
      have htargets : ∀ name ∈ classes.map MarkedClass.name, name.IsRead :=
        List.forall_mem_map.mpr hread
      have hapart : (documentsOf (o.tasks plans)).Pairwise fun d e =>
          o.target d ≠ o.target e ∧ o.target d ≠ o.temporary e := by
        rw [documentsOf_tasks]
        exact pairwise_apart hbindings htargets hnodup
      have hperforms := performs_of_performAll hapart h
      refine ⟨plans, hbuilds, hbindings, generated_of_performs hbindings htargets hnodup hperforms,
        ?_⟩
      exact outcome_bind_eq_ok_iff.mpr ⟨plans, u, rfl, hperforms.again⟩
  · obtain ⟨before, c, after, cause, hsplit, hbefore, hc, hmapM⟩ := hfails
    rw [hmapM]
    constructor
    · intro _
      exact ⟨before, c, after, cause, hsplit, hbefore, hc, rfl⟩
    · intro files u h
      obtain ⟨_, _, hplanned, -⟩ := outcome_bind_eq_ok_iff.mp h
      exact absurd hplanned (by simp)

end Output

/-! ### A class that is generated and one that is not -/

namespace TitledSample

open Output Generation

/-- A registry with a kind for views. -/
def registry : Registry := (Registry.ofClassPath .android).registerView ⟨"Bind"⟩

/-- A field for a view. -/
def title : Field := { name := "title", type := .view }

/-- A class that binds the field. -/
def sample : MarkedClass :=
  { name := ⟨"com.example.Sample"⟩, members := [⟨.field title, [⟨⟨"Bind"⟩, [⟨1⟩], false⟩]⟩] }

/-- A class with a marker of a kind that is not registered. -/
def unknown : MarkedClass :=
  { name := ⟨"com.example.Other"⟩, members := [⟨.field title, [⟨⟨"Find"⟩, [⟨1⟩], false⟩]⟩] }

/-- A directory that plans are written to as well. -/
def output : Output := { written := "out", working := [], withPlans := true }

/-- The class with the unknown marker is reported, and nothing is written. The other one alone
is generated, and is there the second time. -/
theorem outcome_generateAll_sample :
    (∀ c ∈ [sample, unknown], c.name.IsRead)
      ∧ ([sample, unknown].map MarkedClass.name).Nodup
      ∧ (∃ c ∈ [sample, unknown], ∃ cause, Plan.build registry c = .error cause
        ∧ (output.generateAll registry [sample, unknown]).outcome .empty
          = (.error (.binding c.name cause), .empty))
      ∧ ∃ files u, (output.generateAll registry [sample]).outcome .empty = (.ok files, u)
        ∧ files.map GeneratedFile.path
          = ["out/com/example/Sample$SentoBinding.java",
            "out/com/example/Sample$SentoBinding.plan.json", "out/io/sento/SentoFactory.java"]
        ∧ (output.generateAll registry [sample]).outcome u
          = (.ok (files.map fun f => ⟨f.path, false⟩), u) := by
  have hread : ∀ c ∈ [sample, unknown], c.name.IsRead := by
    intro c hc
    rcases List.mem_pair.mp hc with rfl | rfl
    · exact ⟨"com.example.Sample", by decide +kernel⟩
    · exact ⟨"com.example.Other", by decide +kernel⟩
  have hnodup : ([sample, unknown].map MarkedClass.name).Nodup := by decide
  refine ⟨hread, hnodup, ?_, ?_⟩
  · obtain ⟨hstop, -⟩ := outcome_generateAll output registry [sample, unknown] .empty hread hnodup
    have hfails : (Plan.build registry unknown).toOption = none := by decide +kernel
    cases hbuild : Plan.build registry unknown with
    | ok p => exact absurd hfails (by simp [hbuild, Except.toOption])
    | error cause =>
        obtain ⟨before, c, after, cause, hsplit, -, hc, hrun⟩ :=
          hstop ⟨unknown, by simp, cause, hbuild⟩
        exact ⟨c, hsplit ▸ by simp, cause, hc, hrun⟩
  · obtain ⟨-, hruns⟩ := outcome_generateAll output registry [sample] .empty
      (List.forall_mem_singleton.mpr (hread sample List.mem_cons_self)) (List.nodup_singleton _)
    have hfiles : ((output.generateAll registry [sample]).outcome .empty).1.toOption
        = some [⟨"out/com/example/Sample$SentoBinding.java", true⟩,
          ⟨"out/com/example/Sample$SentoBinding.plan.json", true⟩,
          ⟨"out/io/sento/SentoFactory.java", true⟩] := by decide +kernel
    rcases hrun : (output.generateAll registry [sample]).outcome .empty with ⟨result, u⟩
    rw [hrun] at hfiles
    cases result with
    | error e => exact absurd hfiles (by simp [Except.toOption])
    | ok files =>
        obtain ⟨plans, -, -, -, hagain⟩ := hruns files u hrun
        refine ⟨files, u, rfl, ?_, hagain⟩
        rw [Option.some.inj hfiles]
        rfl

end TitledSample

end BindingCompiler
