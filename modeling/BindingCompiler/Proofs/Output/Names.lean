import BindingCompiler.Output.Writer
import BindingCompiler.Proofs.TypeName.Package
import Mathlib.Data.List.Nodup

/-!
# `BindingCompiler.Proofs.Output.Names`: where generated files stand

A later file must not take the place of an earlier one, or a binding would be lost without an
error. The place of a file follows from the name of its class by a chain of steps, and each of
them keeps different names apart.

* A target is known by its binding class, and the factory is no binding class.
* The package of a class becomes directories and the rest of its name the file. Both together
  give the name back.
* A source, a plan and a file that is not in its place yet have different extensions
  (`ne_temporaryName`).
* A path that is reported leads to the file (`destination_report`). The names of packages and
  files are plain steps: a class name that was read has neither slashes nor empty parts.

`nodup_map_below` and `nodup_map_report` put this together for all the files of a run.
-/

set_option autoImplicit false

namespace BindingCompiler

/-! ### Steps to a file -/

namespace FileTree

open Text

/-- A name that leads one step down. -/
structure IsName (name : String) : Prop where
  ne_empty : name ≠ ""
  ne_here : name ≠ "."
  ne_up : name ≠ ".."
  no_slash : '/' ∉ name.toList

/-- Steps lead on from where the steps before them have led. -/
theorem destinationFrom_append (front : Path) (first rest : List String) :
    destinationFrom front (first ++ rest) = destinationFrom (destinationFrom front first) rest := by
  induction first generalizing front with
  | nil => rfl
  | cons step more ih =>
      rw [List.cons_append, destinationFrom, destinationFrom]
      split
      · exact ih front
      · split
        · exact ih front.dropLast
        · exact ih (front ++ [step])

/-- A name leads into the file or directory of that name. -/
theorem IsName.destinationFrom {name : String} (h : IsName name) (front : Path) :
    destinationFrom front [name] = front ++ [name] := by
  have hstay : ¬(name = "" ∨ name = ".") := fun hor => hor.elim h.ne_empty h.ne_here
  rw [FileTree.destinationFrom, if_neg hstay, if_neg h.ne_up, FileTree.destinationFrom]

/-- A name is a single step. -/
theorem IsName.steps_eq {name : String} (h : IsName name) : steps name = [name] := by
  rw [steps, segments_of_not_mem h.no_slash, List.map_singleton, String.ofList_toList]

/-- The steps of a path are those before a slash and those behind it. -/
theorem steps_append_slash (text more : String) :
    steps (text ++ "/" ++ more) = steps text ++ steps more := by
  have htext : (text ++ "/" ++ more).toList = text.toList ++ '/' :: more.toList := by
    rw [String.append_assoc, String.toList_append, String.toList_append]
    rfl
  rw [steps, htext, segments_append_cons, List.map_append]
  rfl

/-- A path that is not empty starts where its first part does. -/
theorem startOf_append {text : String} (h : text.toList ≠ []) (more : String) (working : Path) :
    startOf (text ++ more) working = startOf text working := by
  unfold startOf
  rw [String.toList_append, List.head?_append_of_ne_nil _ h]

/-- A name that is put below a written path leads one step down from there. -/
theorem destination_joined {name : String} (h : IsName name) (working : Path) (text : String) :
    destination working (Output.joined text name) = destination working text ++ [name] := by
  rw [← h.destinationFrom]
  rcases List.eq_nil_or_concat text.toList with hnil | ⟨before, last, hlast⟩
  · -- What is written is empty, so the name stands alone.
    obtain rfl : text = "" := String.toList_eq_nil_iff.mp hnil
    have hstart : startOf name working = working := by
      unfold startOf
      rw [if_neg]
      intro hhead
      exact h.no_slash (List.mem_of_mem_head? hhead)
    show destination working ("" ++ name) = _
    rw [String.empty_append, destination, hstart, h.steps_eq]
    rfl
  have hne : text.toList ≠ [] := by
    rw [hlast]
    simp
  by_cases hslash : last = '/'
  · -- What is written ends in a slash, which leads to where it is already.
    subst hslash
    have hjoined : Output.joined text name = text ++ name := by
      simp [Output.joined, hlast]
    have htext : text = String.ofList before ++ "/" := by
      rw [← String.toList_inj, hlast, String.toList_append, String.toList_ofList]
      simp
    have hend : steps text = steps (String.ofList before) ++ [""] := by
      have hsplit := steps_append_slash (String.ofList before) ""
      rwa [String.append_empty, ← htext] at hsplit
    have hsteps : steps (text ++ name) = steps (String.ofList before) ++ [name] := by
      rw [htext, steps_append_slash, h.steps_eq]
    rw [hjoined, destination, destination, startOf_append hne, hsteps, hend,
      destinationFrom_append, destinationFrom_append]
    rfl
  · have hjoined : Output.joined text name = text ++ "/" ++ name := by
      simp [Output.joined, hlast]
    have hstart : startOf (text ++ "/" ++ name) working = startOf text working := by
      rw [String.append_assoc, startOf_append hne]
    rw [hjoined, destination, destination, hstart, steps_append_slash, h.steps_eq,
      destinationFrom_append]

end FileTree

/-! ### Names of packages and files -/

open FileTree

/-- The parts of the package of a binding class are names. -/
theorem TypeName.isName_of_mem_packageSteps {target : TypeName} (h : target.IsRead) :
    ∀ name ∈ Output.packageSteps (bindingType target), IsName name := by
  intro name hname
  obtain ⟨hprimitive, harray⟩ := bindingType_isClass target
  rcases packageSteps_cases hprimitive harray with ⟨hnil, -⟩ | ⟨before, after, htext, hsteps, -⟩
  · rw [hnil] at hname
    exact absurd hname (by simp)
  · rw [hsteps] at hname
    obtain ⟨part, hpart, rfl⟩ := List.mem_map.mp hname
    rw [text_bindingType, String.toList_append] at htext
    obtain ⟨rest, htarget, -⟩ := exists_of_append_eq_append_cons htext (by decide)
    have hchar := fun c (hc : c ∈ part) => Text.mem_of_mem_segments hpart hc
    have hdot : '.' ∉ part := fun hc => (hchar '.' hc).1 rfl
    have hne := ne_nil_of_mem_package h htarget hpart
    constructor
    · intro hempty
      exact hne (by simpa using congrArg String.toList hempty)
    · intro hhere
      have := congrArg String.toList hhere
      rw [String.toList_ofList] at this
      exact hdot (this ▸ by decide)
    · intro hup
      have := congrArg String.toList hup
      rw [String.toList_ofList] at this
      exact hdot (this ▸ by decide)
    · intro hslash
      rw [String.toList_ofList] at hslash
      refine slash_not_mem h ?_
      rw [htarget]
      exact List.mem_append_left _ (hchar '/' hslash).2

/-- The local name of a binding class has no slashes. -/
theorem TypeName.slash_not_mem_localName {target : TypeName} (h : target.IsRead) :
    '/' ∉ (bindingType target).localName.toList := by
  have htext : '/' ∉ (bindingType target).text.toList := by
    rw [text_bindingType, String.toList_append, List.mem_append]
    exact fun hor => hor.elim (slash_not_mem h) (by decide)
  obtain ⟨hprimitive, harray⟩ := bindingType_isClass target
  rcases packageSteps_cases hprimitive harray with ⟨-, hname⟩ | ⟨before, after, hsplit, -, hname⟩
  · rwa [hname]
  · rw [hname, String.toList_ofList]
    intro hslash
    refine htext ?_
    rw [hsplit]
    exact List.mem_append_right _ (List.mem_cons_of_mem _ hslash)

namespace Output

/-- The extensions of generated files. -/
def extensions : List String := [".java", ".plan.json"]

/-- Sources have one of the extensions. -/
theorem java_mem_extensions : ".java" ∈ extensions := by decide

/-- So have plans. -/
theorem plan_mem_extensions : ".plan.json" ∈ extensions := by decide

/-- A name with such an extension is one if it has no slashes. -/
theorem isName_of_extension {front extension : String} (hfront : '/' ∉ front.toList)
    (h : extension ∈ extensions) : IsName (front ++ extension) := by
  have hlast : ∃ c, (front ++ extension).toList.getLast? = some c ∧ c ≠ '.' := by
    have hend : ∃ c, extension.toList.getLast? = some c ∧ c ≠ '.' := by
      revert h
      unfold extensions
      simp only [List.mem_cons, List.not_mem_nil, or_false]
      rintro (rfl | rfl)
      · exact ⟨'a', by decide⟩
      · exact ⟨'n', by decide⟩
    obtain ⟨c, hc, hne⟩ := hend
    exact ⟨c, getLast?_append hc front, hne⟩
  obtain ⟨c, hc, hne⟩ := hlast
  constructor
  · intro hempty
    rw [hempty] at hc
    exact absurd hc (by simp)
  · intro hhere
    rw [hhere] at hc
    exact hne (Option.some.inj hc).symm
  · intro hup
    rw [hup] at hc
    exact hne (Option.some.inj hc).symm
  · have hextension : '/' ∉ extension.toList := by
      have hnone : ∀ extension ∈ extensions, '/' ∉ extension.toList := by decide
      exact hnone extension h
    rw [String.toList_append, List.mem_append]
    exact fun hor => hor.elim hfront hextension

/-- A file that is not in its place yet has another extension. -/
theorem ne_temporaryName {front extension : String} (h : extension ∈ extensions) (name : String) :
    front ++ extension ≠ temporaryName name := by
  have htemporary : (temporaryName name).toList.getLast? = some 'p' := by
    unfold temporaryName
    split <;> exact getLast?_append (by decide) _
  have hend : ∀ extension ∈ extensions, extension.toList.getLast? = some 'a'
      ∨ extension.toList.getLast? = some 'n' := by decide
  intro heq
  rw [← heq] at htemporary
  rcases hend extension h with hlast | hlast
  · exact absurd ((getLast?_append hlast front).symm.trans htemporary) (by decide)
  · exact absurd ((getLast?_append hlast front).symm.trans htemporary) (by decide)

/-- The path of a file of a class, from the output directory. -/
def pathOf (t : TypeName) (extension : String) : Path :=
  packageSteps t ++ [t.localName ++ extension]

/-- The files of different classes, and those of different extensions, have different paths. -/
theorem pathOf_injective {t u : TypeName} {extension other : String}
    (ht : t.isPrimitive = false ∧ t.isArray = false)
    (hu : u.isPrimitive = false ∧ u.isArray = false) (hextension : extension ∈ extensions)
    (hother : other ∈ extensions) (h : pathOf t extension = pathOf u other) :
    t = u ∧ extension = other := by
  obtain ⟨hsteps, hname⟩ := List.append_inj' h rfl
  have hname : t.localName ++ extension = u.localName ++ other := by simpa using hname
  have hsame : extension = other := by
    have hends : ∀ extension ∈ extensions, ∀ other ∈ extensions,
        extension.toList.getLast? = other.toList.getLast? → extension = other := by decide
    have hsome : ∀ extension ∈ extensions, extension.toList.getLast?.isSome = true := by decide
    obtain ⟨c, hc⟩ := Option.isSome_iff_exists.mp (hsome extension hextension)
    obtain ⟨d, hd⟩ := Option.isSome_iff_exists.mp (hsome other hother)
    have hlast : some c = some d := by
      rw [← getLast?_append hc t.localName, hname, getLast?_append hd]
    exact hends extension hextension other hother (by rw [hc, hd, hlast])
  have hlocal : t.localName.toList = u.localName.toList := by
    have htext := congrArg String.toList hname
    rw [hsame, String.toList_append, String.toList_append] at htext
    exact List.append_cancel_right htext
  exact ⟨TypeName.eq_of_packageSteps_of_localName ht.1 ht.2 hu.1 hu.2 hsteps
    (String.toList_inj.mp hlocal), hsame⟩

/-! ### The files of a run -/

/-- A file that is generated for a class. -/
structure Document where
  owner : TypeName
  extension : String
  text : String

namespace Document

/-- Its directory, from the output directory. -/
def directory (d : Document) : Path := packageSteps d.owner

/-- Its name there. -/
def name (d : Document) : String := d.owner.localName ++ d.extension

/-- Its path from the output directory. -/
def below (d : Document) : Path := d.directory ++ [d.name]

/-- It is the file of a class, and all names on the way to it are plain steps. -/
structure IsProper (d : Document) : Prop where
  owner_isClass : d.owner.isPrimitive = false ∧ d.owner.isArray = false
  extension_mem : d.extension ∈ extensions
  isName : ∀ name ∈ d.below, IsName name

end Document

/-- The files of a plan: the source of its binding class, and the plan itself if plans are
wanted. -/
def documents (o : Output) (p : Plan) : List Document :=
  ⟨p.binding, ".java", Source.render p⟩
    :: if o.withPlans then [⟨p.binding, ".plan.json", p.toJson.pretty⟩] else []

/-- The file of the factory. -/
def factoryDocument (plans : List Plan) : Document :=
  ⟨factoryType, ".java", Source.renderFactory plans⟩

/-- The files of some plans in their order, and that of the factory. -/
def allDocuments (o : Output) (plans : List Plan) : List Document :=
  plans.flatMap o.documents ++ [factoryDocument plans]

/-- A file of a plan is one of its binding class. -/
theorem owner_of_mem_documents {o : Output} {p : Plan} {d : Document} (h : d ∈ o.documents p) :
    d.owner = p.binding ∧ d.extension ∈ extensions := by
  unfold documents at h
  rcases List.mem_cons.mp h with rfl | h
  · exact ⟨rfl, java_mem_extensions⟩
  · split at h
    · rw [List.mem_singleton.mp h]
      exact ⟨rfl, plan_mem_extensions⟩
    · exact absurd h (by simp)

section
variable {o : Output} {targets : List TypeName} {plans : List Plan}

/-- The files of a run are proper, if its targets have names that were read. -/
theorem isProper_of_mem_allDocuments (hplans : plans.map Plan.binding = targets.map bindingType)
    (htargets : ∀ t ∈ targets, t.IsRead) {d : Document} (h : d ∈ o.allDocuments plans) :
    d.IsProper := by
  rcases List.mem_append.mp h with h | h
  · obtain ⟨p, hp, hd⟩ := List.mem_flatMap.mp h
    obtain ⟨howner, hextension⟩ := owner_of_mem_documents hd
    obtain ⟨t, ht, hbinding⟩ : ∃ t ∈ targets, bindingType t = d.owner := by
      have hmem := List.mem_map_of_mem (f := Plan.binding) hp
      rw [hplans] at hmem
      exact howner ▸ List.mem_map.mp hmem
    refine ⟨hbinding ▸ TypeName.bindingType_isClass t, hextension, ?_⟩
    unfold Document.below Document.directory Document.name
    rw [← hbinding]
    refine List.forall_mem_append.mpr ⟨?_, List.forall_mem_singleton.mpr ?_⟩
    · exact TypeName.isName_of_mem_packageSteps (htargets t ht)
    · exact isName_of_extension (TypeName.slash_not_mem_localName (htargets t ht)) hextension
  · rw [List.mem_singleton.mp h]
    obtain ⟨hprimitive, harray, -⟩ := TypeName.factoryType_isClass
    refine ⟨⟨hprimitive, harray⟩, java_mem_extensions, ?_⟩
    have hbelow : (factoryDocument plans).below = ["io", "sento", "SentoFactory.java"] := by
      show pathOf factoryType ".java" = _
      decide
    rw [hbelow]
    intro name hname
    simp only [List.mem_cons, List.not_mem_nil, or_false] at hname
    rcases hname with rfl | rfl | rfl <;> exact ⟨by decide, by decide, by decide, by decide⟩

/-- No class has two files of one extension in a run. -/
theorem nodup_map_owner (hplans : plans.map Plan.binding = targets.map bindingType)
    (hnodup : targets.Nodup) :
    ((o.allDocuments plans).map fun d => (d.owner, d.extension)).Nodup := by
  have hbindings : (plans.map Plan.binding).Nodup := by
    rw [hplans]
    exact hnodup.map fun t u => TypeName.bindingType_injective
  rw [allDocuments, List.map_append, List.map_flatMap, List.nodup_append]
  refine ⟨List.nodup_flatMap.mpr ⟨fun p _ => ?_, ?_⟩, by simp, ?_⟩
  · unfold documents
    split <;> simp
  · -- Files of two plans have different owners.
    refine (List.pairwise_map.mp hbindings).imp ?_
    intro p p' hne key hkey hkey'
    refine hne ?_
    obtain ⟨d, hd, rfl⟩ := List.mem_map.mp hkey
    obtain ⟨d', hd', heq⟩ := List.mem_map.mp hkey'
    rw [← (owner_of_mem_documents hd).1, ← (owner_of_mem_documents hd').1]
    exact (congrArg Prod.fst heq).symm
  · -- The factory is the file of no plan.
    intro key hkey other hother heq
    obtain ⟨p, hp, hkey⟩ := List.mem_flatMap.mp hkey
    obtain ⟨d, hd, rfl⟩ := List.mem_map.mp hkey
    rw [List.map_singleton, List.mem_singleton] at hother
    subst hother
    have hmem := List.mem_map_of_mem (f := Plan.binding) hp
    rw [hplans] at hmem
    obtain ⟨t, -, ht⟩ := List.mem_map.mp hmem
    refine TypeName.factoryType_isClass.2.2 t ?_
    rw [ht, ← (owner_of_mem_documents hd).1]
    exact congrArg Prod.fst heq

/-- The paths of a run are different, if its targets are. -/
theorem nodup_map_below (hplans : plans.map Plan.binding = targets.map bindingType)
    (htargets : ∀ t ∈ targets, t.IsRead) (hnodup : targets.Nodup) :
    ((o.allDocuments plans).map Document.below).Nodup := by
  refine List.pairwise_map.mpr ?_
  refine (List.pairwise_map.mp (nodup_map_owner hplans hnodup)).imp_of_mem ?_
  intro d e hd hd' hne heq
  have hproper := isProper_of_mem_allDocuments hplans htargets hd
  have hproper' := isProper_of_mem_allDocuments hplans htargets hd'
  obtain ⟨howner, hextension⟩ := pathOf_injective hproper.owner_isClass hproper'.owner_isClass
    hproper.extension_mem hproper'.extension_mem heq
  exact hne (by rw [howner, hextension])

/-- The path that is reported of a proper file leads to it. -/
theorem destination_report {d : Document} (h : d.IsProper) :
    FileTree.destination o.working (o.report d.below) = o.place ++ d.below := by
  have hfold : ∀ (below : Path) (text : String), (∀ name ∈ below, IsName name) →
      FileTree.destination o.working (below.foldl joined text)
        = FileTree.destination o.working text ++ below := by
    intro below
    induction below with
    | nil => exact fun text _ => (List.append_nil _).symm
    | cons name rest ih =>
        intro text hnames
        obtain ⟨hname, hrest⟩ := List.forall_mem_cons.mp hnames
        rw [List.foldl_cons, ih _ hrest, destination_joined hname, List.append_assoc]
        rfl
  exact hfold d.below o.written h.isName

/-- The paths that are reported for all documents of distinct targets are distinct. -/
theorem nodup_map_report (hplans : plans.map Plan.binding = targets.map bindingType)
    (htargets : ∀ t ∈ targets, t.IsRead) (hnodup : targets.Nodup) :
    ((o.allDocuments plans).map fun d => o.report d.below).Nodup := by
  refine List.pairwise_map.mpr ?_
  have hbelow := List.pairwise_map.mp (nodup_map_below (o := o) hplans htargets hnodup)
  refine hbelow.imp_of_mem ?_
  intro d e hd hd' hne heq
  refine hne ?_
  -- A path that is reported leads to one place only.
  have hplace := destination_report (o := o) (isProper_of_mem_allDocuments hplans htargets hd)
  rw [heq, destination_report (isProper_of_mem_allDocuments hplans htargets hd')] at hplace
  exact (List.append_cancel_left hplace).symm

end

end Output

end BindingCompiler
