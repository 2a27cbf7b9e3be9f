import BindingCompiler.Proofs.Output.Generation
import BindingCompiler.Proofs.Plan.ClassNames

/-!
# `BindingCompiler.Proofs.Output.Placement`: sources stand where they say

A binding lives next to its target: its source has the package line of the target, and its file
is put into the directory of that package under the name of the public class. The package is
derived twice, from the target for the source and from the binding class for the directory.

For a class both are the same (`package?_nested`), and the names of all generated classes are
read as what they are. An array has no package, but its binding class, which is no array, has
that of the element. So the source of an array has no package line and stands in a directory all
the same, and the name of the class has brackets in it, which nothing can read.

`placed_iff` says that arrays are all that goes wrong among the names that can be read. A type
declaration refuses them, and a class declaration does not.
-/

set_option autoImplicit false

namespace BindingCompiler

open Text

/-! ### Packages as they are written -/

/-- The parts with a separator between each two, as one list. -/
theorem joinWith_eq_intercalate {α : Type} (separator : α) (parts : List (List α)) :
    joinWith separator parts = [separator].intercalate parts := by
  induction parts with
  | nil => rfl
  | cons part more ih =>
      cases more with
      | nil => rw [joinWith, List.intercalate_singleton]
      | cons second others =>
          rw [joinWith, ih, List.intercalate_cons_cons, List.append_assoc]
          · rfl
          · simp

/-- A package is its parts with dots between them. -/
theorem intercalate_segments (package : String) :
    String.intercalate "." ((segments '.' package.toList).map String.ofList) = package := by
  have htexts : ((segments '.' package.toList).map String.ofList).map String.toList
      = segments '.' package.toList := by
    rw [List.map_map]
    exact (List.map_congr_left fun part _ => String.toList_ofList).trans (List.map_id _)
  rw [← String.toList_inj, String.toList_intercalate, htexts]
  exact (joinWith_eq_intercalate '.' _).symm.trans (joinWith_segments '.' _)

namespace Source

/-- The package line of a class in some directories, if it is in any. -/
def packageLines : Path → List String
  | [] => []
  | first :: rest => ["package " ++ String.intercalate "." (first :: rest) ++ ";"]

/-- The package line is that of the directories of the package. -/
theorem packageLines_packageSteps (t : TypeName) : packageLines (Output.packageSteps t)
    = t.package?.toList.map fun package => "package " ++ package ++ ";" := by
  unfold Output.packageSteps
  cases t.package? with
  | none => rfl
  | some package =>
      have hjoined := intercalate_segments package
      show packageLines ((segments '.' package.toList).map String.ofList) = _
      cases hsteps : (segments '.' package.toList).map String.ofList with
      | nil => exact absurd (List.map_eq_nil_iff.mp hsteps) (segments_ne_nil _ _)
      | cons first rest =>
          rw [hsteps] at hjoined
          rw [packageLines, hjoined]
          rfl

end Source

/-! ### The beginning of a source -/

namespace Source

open Layout

/-- The lines that the source of a class of this name begins with, if the class stands in these
directories and implements this interface. -/
def firstLines (steps : Path) (name implemented : String) : List String :=
  header :: packageLines steps
    ++ ["", "public final class " ++ name ++ " implements " ++ implemented ++ " \x7b"]

/-- Outside of all blocks a line is written as it is. -/
theorem text_line (text : String) : (Item.line text).text 0 = text := by
  show (if text.isEmpty then "" else indent 0 ++ text) = text
  split
  · rename_i hempty
    exact (String.isEmpty_iff.mp hempty).symm
  · exact String.empty_append

/-- So are several lines, one after the other. -/
theorem lines_lines (texts : List String) (rest : List Item) :
    lines 0 (texts.map .line ++ rest) = texts ++ lines 0 rest := by
  rw [lines_map_line_append]
  simp only [text_line, List.map_id']

/-- The source of a plan begins with the package line of its target and the binding class. -/
theorem render_eq (p : Plan) : ∃ implemented rest, render p
    = String.join ((firstLines (Output.packageSteps p.target) p.binding.localName implemented
      ++ rest).map fun line => line ++ "\n") := by
  let implemented := bindingInterface ++ "<" ++ p.target.sourceName ++ ">"
  have hopening : (Item.opening ("public final class " ++ p.binding.localName ++ " implements "
        ++ bindingInterface ++ "<" ++ p.target.sourceName ++ ">")).text 0
      = "public final class " ++ p.binding.localName ++ " implements " ++ implemented
        ++ " \x7b" := by
    rw [Item.text]
    simp only [implemented, indent, String.append_assoc]
    exact String.empty_append
  obtain ⟨more, hcalls⟩ : ∃ more, bindingCalls p
      = (header :: packageLines (Output.packageSteps p.target)).map .line
        ++ .blank :: .opening ("public final class " ++ p.binding.localName ++ " implements "
          ++ bindingInterface ++ "<" ++ p.target.sourceName ++ ">") :: more := by
    rw [packageLines_packageSteps, List.map_cons, List.map_map, bindingCalls, bindingClassCalls]
    simp only [List.append_assoc]
    exact ⟨_, rfl⟩
  refine ⟨implemented, lines 1 more, ?_⟩
  rw [render, Writer.finish_writeAll, hcalls, Layout.render, lines_lines, firstLines,
    List.append_assoc, ← hopening]
  rfl

end Source

/-! ### The file of a source -/

namespace Output

open FileTree Generation

/-- The source of a plan. -/
def sourceDocument (p : Plan) : Document := ⟨p.binding, ".java", Source.render p⟩

/-- A plan of a class with a name that was read has its source in the file of its binding
class, which is the first one that is reported. -/
theorem exists_source_of_writePlan {o : Output} {p : Plan} {target : TypeName} {t u : FileTree}
    {files : List GeneratedFile} (hread : target.IsRead) (hbinding : p.binding = bindingType target)
    (h : (o.writePlan p).outcome t = (.ok files, u)) : ∃ file more, files = file :: more
      ∧ file.path = o.report (pathOf p.binding ".java")
      ∧ destination o.working file.path = o.place ++ pathOf p.binding ".java"
      ∧ u.read (o.place ++ pathOf p.binding ".java") = .ok (Text.encode (Source.render p)) := by
  have hplans : [p].map Plan.binding = [target].map bindingType := by simp [hbinding]
  have htargets : ∀ name ∈ [target], name.IsRead := List.forall_mem_singleton.mpr hread
  have hall : o.allDocuments [p] = o.documents p ++ [factoryDocument [p]] := by
    rw [allDocuments, List.flatMap_singleton]
  have hapart : (documentsOf (o.planTasks p)).Pairwise fun d e =>
      o.target d ≠ o.target e ∧ o.target d ≠ o.temporary e := by
    have hrun := pairwise_apart (o := o) hplans htargets (List.nodup_singleton _)
    rw [hall] at hrun
    rw [documentsOf_planTasks]
    exact (List.pairwise_append.mp hrun).1
  rw [writePlan_eq] at h
  have hperforms := performs_of_performAll hapart h
  have hreported := hperforms.reported
  rw [documentsOf_planTasks] at hreported
  -- The source is the first file of the plan, and its task is settled.
  have hsource : sourceDocument p ∈ o.documents p := List.mem_cons_self
  have hsettled := hperforms.settled (.file (sourceDocument p))
    (List.mem_cons_of_mem _ (List.mem_map_of_mem hsource))
  have hleads := destination_report (o := o) (isProper_of_mem_allDocuments (o := o) hplans htargets
    (hall ▸ List.mem_append_left _ hsource))
  cases files with
  | nil => exact absurd hreported (by simp [documents])
  | cons file more =>
      have hpath : file.path = o.report (sourceDocument p).below := (List.cons.inj hreported).1
      refine ⟨file, more, rfl, hpath, ?_, hsettled⟩
      rw [hpath, hleads]
      rfl

end Output

/-! ### Sources in their places -/

/-- The sources of a plan stand where they say. -/
structure Plan.Placed (p : Plan) : Prop where
  /-- Each generated class has a name that is read as it is, as that of a class. -/
  names : ∀ t ∈ p.generatedTypes,
    TypeName.parse t.text = .ok t ∧ t.isPrimitive = false ∧ t.isArray = false
  /-- The source begins with the package line of the directories that the binding class is in,
  and declares the binding class first. -/
  source : ∃ implemented rest, Source.render p = String.join
    ((Source.firstLines (Output.packageSteps p.binding) p.binding.localName implemented
      ++ rest).map fun line => line ++ "\n")
  /-- Wherever the plan is written, this source is the first file that is reported. It is in
  these directories and has the name of the binding class. -/
  file : ∀ (o : Output) (t u : FileTree) (files : List GeneratedFile),
    (o.writePlan p).outcome t = (.ok files, u) → ∃ file more, files = file :: more
      ∧ file.path
        = o.report (Output.packageSteps p.binding ++ [p.binding.localName ++ ".java"])
      ∧ FileTree.destination o.working file.path
        = o.place ++ (Output.packageSteps p.binding ++ [p.binding.localName ++ ".java"])
      ∧ u.read (o.place ++ (Output.packageSteps p.binding ++ [p.binding.localName ++ ".java"]))
        = .ok (Text.encode (Source.render p))

namespace Plan

variable {r : Registry} {c : MarkedClass} {p : Plan}

/-- The classes that are generated for a class have names that are read, as those of classes. -/
theorem names_of_build (hread : c.name.IsRead) (harray : c.name.isArray = false)
    (h : build r c = .ok p) {t : TypeName} (ht : t ∈ p.generatedTypes) :
    TypeName.parse t.text = .ok t ∧ t.isPrimitive = false ∧ t.isArray = false := by
  have hbinding := (TypeName.isRead_bindingType_iff hread).mpr harray
  have hclass := TypeName.bindingType_isClass c.name
  rcases generates_of_mem_generatedTypes h ht with rfl | ⟨i, rfl⟩
  · exact ⟨TypeName.isRead_iff_parse_text.mp hbinding, hclass⟩
  · have hchars : ∀ c ∈ (toString i).toList, TypeName.isSegmentChar c = true :=
      fun c hc => TypeName.isSegmentChar_of_isDigit (Text.isDigit_of_mem_toString hc)
    have hbracket : ']' ∉ (toString i).toList :=
      fun hc => absurd (Text.isDigit_of_mem_toString hc) (by decide)
    exact ⟨TypeName.isRead_iff_parse_text.mp (hbinding.nested hclass.2 hchars),
      TypeName.not_isPrimitive_nested _ _, TypeName.not_isArray_nested hbracket _⟩

/-- The sources of a class stand where they say unless the class is an array. -/
theorem placed_iff (hread : c.name.IsRead) (h : build r c = .ok p) :
    p.Placed ↔ c.name.isArray = false := by
  obtain ⟨htarget, hbinding⟩ := target_eq_of_build h
  constructor
  · intro hplaced
    obtain ⟨hparse, -, -⟩ := hplaced.names p.binding List.mem_cons_self
    rw [hbinding] at hparse
    exact (TypeName.isRead_bindingType_iff hread).mp (TypeName.isRead_iff_parse_text.mpr hparse)
  · intro harray
    constructor
    · intro t ht
      exact names_of_build hread harray h ht
    · have hpackage : p.binding.package? = p.target.package? := by
        rw [hbinding, htarget]
        exact TypeName.package?_nested harray (by decide) (by decide)
      have hsteps : Output.packageSteps p.binding = Output.packageSteps p.target := by
        rw [Output.packageSteps, hpackage, Output.packageSteps]
      rw [hsteps]
      exact Source.render_eq p
    · intro o t u files hwrite
      exact Output.exists_source_of_writePlan hread hbinding hwrite

end Plan

/-! ### A class and an array -/

namespace SharedPlayer

/-- A directory for sources. -/
def output : Output := { written := "out", working := [] }

/-- The source of a class with a listener stands in the package of the class, and is written
there. -/
theorem placed_sample : sample.name.IsRead
    ∧ ∃ p, Plan.build registry sample = .ok p ∧ p.Placed
      ∧ Source.packageLines (Output.packageSteps p.binding) = ["package com.example;"]
      ∧ p.binding.localName = "Player$SentoBinding"
      ∧ ∃ u, (output.writePlan p).outcome .empty
        = (.ok [⟨"out/com/example/Player$SentoBinding.java", true⟩], u) := by
  have hread : sample.name.IsRead := ⟨"com.example.Player", by decide +kernel⟩
  obtain ⟨p, hp⟩ := exists_build_sample
  obtain ⟨-, hbinding⟩ := Plan.target_eq_of_build hp
  have hfiles : ((output.generate registry sample).outcome .empty).1.toOption
      = some [⟨"out/com/example/Player$SentoBinding.java", true⟩] := by decide +kernel
  have hwrite : output.generate registry sample = output.writePlan p := by
    rw [Output.generate, Output.plan, hp]
    rfl
  rw [hwrite] at hfiles
  refine ⟨hread, p, hp, (Plan.placed_iff hread hp).mpr (by decide), ?_, ?_, ?_⟩
  · rw [hbinding]
    decide
  · rw [hbinding]
    decide
  · rcases hrun : (output.writePlan p).outcome .empty with ⟨result, u⟩
    rw [hrun] at hfiles
    cases result with
    | error e => exact absurd hfiles (by simp [Except.toOption])
    | ok files => exact ⟨u, by rw [Option.some.inj hfiles]⟩

end SharedPlayer

namespace ArrayTarget

/-- An array of a class, without members. -/
def sample : MarkedClass := { name := ⟨"com.example.Sample[]"⟩ }

/-- The name of the array is read and it has a plan, but the name of its binding class is not
read, and the source has no package line though it is put into the directory of a package. -/
theorem not_placed_sample : ∃ p, TypeName.parse "com.example.Sample[]" = .ok sample.name
    ∧ Plan.build (Registry.ofClassPath .android) sample = .ok p ∧ ¬ p.Placed
    ∧ TypeName.parse p.binding.text
      = .error (.invalid "com.example.Sample[]$SentoBinding" .forbiddenCharacter)
    ∧ Output.packageSteps p.binding = ["com", "example"]
    ∧ ∃ implemented rest, Source.render p = String.join
      ((Source.firstLines [] p.binding.localName implemented
        ++ rest).map fun line => line ++ "\n") := by
  have hparse : TypeName.parse (bindingType sample.name).text
      = .error (.invalid "com.example.Sample[]$SentoBinding" .forbiddenCharacter) := by
    decide +kernel
  refine ⟨.empty sample.name, by decide +kernel, rfl, ?_, hparse, by decide, ?_⟩
  · intro hplaced
    obtain ⟨hread, -, -⟩ := hplaced.names _ List.mem_cons_self
    exact absurd (hparse.symm.trans hread) (by simp)
  · exact Source.render_eq (.empty sample.name)

end ArrayTarget

end BindingCompiler
