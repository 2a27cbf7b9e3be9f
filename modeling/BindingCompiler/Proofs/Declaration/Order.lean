import BindingCompiler.Proofs.Declaration.Calls
import BindingCompiler.Proofs.Registry.Redeclaration
import Mathlib.Data.List.Induction

/-!
# `BindingCompiler.Proofs.Declaration.Order`: declarations in any order

A configuration may name a kind or a type before it declares it, because nothing is checked
while it is read. The manifest only collects the declarations, and the registry is made from
it at the end: all types first, then the views, the resources and the listeners.

`register_perm` is the main fact. If calls are all accepted, no two of them declare the same
type or the same kind, and they are made in another order, then they are all accepted again
and lead to the same registry over every base, or to none both times. It is put together from
three steps.

* What a call declares can be read off the call alone (`Call.declaration?`), and the manifest
  of accepted calls is the one that lists their declarations (`declareAll_eq_ok_iff`). So
  another order of the calls permutes each list of the manifest.
* Types of distinct names lead to the same class path in every order
  (`ClassPath.insertAll_perm`), also where they replace types of the base.
* The check of a registration depends on the class path and on nothing that was registered
  before. So all checks succeed in one order if they do in the other
  (`Registry.registerEach_eq_ok_iff`), and what they enter under distinct kinds is the same
  table (`Registry.registerAll_perm`).

The names have to be distinct, since of several declarations of one name the last one counts.
The errors of two orders are not compared: an error is about the first registration that is
refused, and which one is first depends on the order.
-/

set_option autoImplicit false

namespace BindingCompiler

/-! ### What is declared -/

namespace Declaration

/-- The type that is declared. -/
def type? : Declaration → Option ClassType
  | .type c => some c
  | _ => none

/-- The view kind that is declared. -/
def view? : Declaration → Option Kind
  | .view kind => some kind
  | _ => none

/-- The resource kind that is declared. -/
def resource? : Declaration → Option ResourceDecl
  | .resource d => some d
  | _ => none

/-- The listener kind that is declared. -/
def listener? : Declaration → Option ListenerDecl
  | .listener d => some d
  | _ => none

/-- The marked class that is declared. -/
def markedClass? : Declaration → Option MarkedClass
  | .markedClass c => some c
  | _ => none

end Declaration

namespace Manifest

/-- The manifest that lists some declarations. -/
def ofDeclarations (ds : List Declaration) : Manifest where
  types := ds.filterMap Declaration.type?
  views := ds.filterMap Declaration.view?
  resources := ds.filterMap Declaration.resource?
  listeners := ds.filterMap Declaration.listener?
  classes := ds.filterMap Declaration.markedClass?

/-- The names of the marked classes. -/
def classNames (m : Manifest) : List TypeName := m.classes.map MarkedClass.name

/-- The manifest of calls, or the rejection of the first that is not accepted. -/
def declareAll (calls : List Call) : Except DeclarationError Manifest :=
  calls.foldlM answer .empty

/-- Over a base, either both manifests have a registry and it is the same, or neither has one. -/
def RegistersLike (m n : Manifest) (base : Registry) : Prop :=
  (∃ r, m.register base = .ok r ∧ n.register base = .ok r)
    ∨ ∃ e f, m.register base = .error e ∧ n.register base = .error f

section
variable {m n : Manifest} {c : Call} {d : Declaration} {ds : List Declaration}

/-- The manifest with the declaration at the end of its list. -/
def appended (m : Manifest) (d : Declaration) : Manifest where
  types := m.types ++ d.type?.toList
  views := m.views ++ d.view?.toList
  resources := m.resources ++ d.resource?.toList
  listeners := m.listeners ++ d.listener?.toList
  classes := m.classes ++ d.markedClass?.toList

/-- A declaration is taken as it is, but for a class of a name that there is already. -/
theorem add_eq_ok_iff :
    m.add d = .ok n ↔ m.appended d = n ∧ ∀ c, d.markedClass? = some c → c.name ∉ m.classNames := by
  cases d with
  | markedClass c =>
      have hlist : m.appended (.markedClass c) = { m with classes := m.classes ++ [c] } := by
        simp [appended, Declaration.type?, Declaration.view?, Declaration.resource?,
          Declaration.listener?, Declaration.markedClass?]
      rw [add, hlist]
      split
      · rename_i hused
        refine ⟨fun h => absurd h (by simp), fun h => ?_⟩
        exact absurd (class?_isSome_iff.mp hused) (h.2 c rfl)
      · rename_i hunused
        refine ⟨fun h => ⟨Except.ok.inj h, ?_⟩, fun h => congrArg Except.ok h.1⟩
        intro other hother hused
        cases hother
        exact hunused (class?_isSome_iff.mpr hused)
  | _ =>
      simp [add, appended, Declaration.type?, Declaration.view?, Declaration.resource?,
        Declaration.listener?, Declaration.markedClass?]

/-- The last declaration is appended to what the others have declared. -/
theorem ofDeclarations_concat : ofDeclarations (ds ++ [d]) = (ofDeclarations ds).appended d := by
  have hlast {α : Type} (f : Declaration → Option α) :
      (ds ++ [d]).filterMap f = ds.filterMap f ++ (f d).toList := by
    rw [List.filterMap_append]
    cases hd : f d <;> simp [hd]
  simp only [ofDeclarations, hlast, appended]

/-- If it declares a class, the name of the class comes last. -/
theorem classNames_ofDeclarations_concat : (ofDeclarations (ds ++ [d])).classNames
    = (ofDeclarations ds).classNames ++ (d.markedClass?.map MarkedClass.name).toList := by
  rw [ofDeclarations_concat, classNames, appended, List.map_append]
  cases d.markedClass? <;> rfl

/-- The manifest that lists some declarations takes another one at its end, unless this
gives two classes the same name. -/
theorem add_ofDeclarations (hnames : (ofDeclarations ds).classNames.Nodup) :
    (ofDeclarations ds).add d = .ok n
      ↔ ofDeclarations (ds ++ [d]) = n ∧ n.classNames.Nodup := by
  rw [add_eq_ok_iff, ← ofDeclarations_concat]
  refine and_congr_right ?_
  intro hn
  rw [← hn, classNames_ofDeclarations_concat, List.nodup_append]
  cases d.markedClass? with
  | none => simp [hnames]
  | some c =>
      have hsingle : (∀ name ∈ (ofDeclarations ds).classNames, name ≠ c.name)
          ↔ c.name ∉ (ofDeclarations ds).classNames :=
        ⟨fun h hused => h _ hused rfl, fun h name hname heq => h (heq ▸ hname)⟩
      simpa [hnames] using hsingle.symm

/-- Calls are all accepted exactly if each declares something and no two classes have the
same name. The manifest lists what they declare. -/
theorem declareAll_eq_ok_iff {calls : List Call} {m : Manifest} :
    declareAll calls = .ok m ↔ (∀ c ∈ calls, ∃ d, c.declaration? = some d)
      ∧ ofDeclarations (calls.filterMap Call.declaration?) = m ∧ m.classNames.Nodup := by
  -- From the end, since the manifest grows there.
  induction calls using List.reverseRecOn generalizing m with
  | nil =>
      refine ⟨fun h => ⟨by simp, Except.ok.inj h, ?_⟩, fun h => congrArg Except.ok h.2.1⟩
      cases h
      exact List.nodup_nil
  | append_singleton calls c ih =>
      have hrun : declareAll (calls ++ [c]) = declareAll calls >>= fun m => m.answer c := by
        rw [declareAll, List.foldlM_append]
        refine bind_congr ?_
        intro m
        simp
      rw [hrun, List.forall_mem_append, List.filterMap_append]
      constructor
      · intro h
        obtain ⟨before, hbefore, hlast⟩ := exists_of_bind_eq_ok h
        obtain ⟨hread, rfl, hnames⟩ := ih.mp hbefore
        obtain ⟨d, hd, hadd⟩ := answer_eq_ok_iff.mp hlast
        refine ⟨⟨hread, List.forall_mem_singleton.mpr ⟨d, hd⟩⟩, ?_⟩
        simpa [hd] using (add_ofDeclarations hnames).mp hadd
      · rintro ⟨⟨hread, hlast⟩, hm, hnames⟩
        obtain ⟨d, hd⟩ := List.forall_mem_singleton.mp hlast
        have hone : [c].filterMap Call.declaration? = [d] := by simp [hd]
        rw [hone] at hm
        -- The names of the classes before are among those of all.
        have hbefore : (ofDeclarations (calls.filterMap Call.declaration?)).classNames.Nodup := by
          have hall := hnames
          rw [← hm, classNames_ofDeclarations_concat] at hall
          exact (List.nodup_append.mp hall).1
        rw [ih.mpr ⟨hread, rfl, hbefore⟩]
        exact answer_eq_ok_iff.mpr ⟨d, hd, (add_ofDeclarations hbefore).mpr ⟨hm, hnames⟩⟩

end

/-! ### Other orders -/

section
variable {m n : Manifest}

/-- Manifests of the same types and the same registrations register alike, in whatever order
they list them, if no two types and no two registrations are of the same name. -/
theorem registersLike_of_perm (htypes : m.types.Perm n.types)
    (hregistrations : m.registrations.Perm n.registrations)
    (htypeNames : (m.types.map ClassType.name).Nodup) (hkinds : m.kinds.Nodup) (base : Registry) :
    m.RegistersLike n base := by
  have hpath : base.classPath.insertAll n.types = base.classPath.insertAll m.types :=
    (ClassPath.insertAll_perm htypes htypeNames).symm
  unfold RegistersLike
  rw [register_eq, register_eq, hpath]
  generalize ({ base with classPath := base.classPath.insertAll m.types } : Registry) = start
  cases hrun : start.registerEach m.registrations with
  | ok r =>
      obtain ⟨hchecks, hall⟩ := Registry.registerEach_eq_ok_iff.mp hrun
      have hother : start.registerEach n.registrations = .ok r := by
        refine Registry.registerEach_eq_ok_iff.mpr ⟨?_, ?_⟩
        · exact fun g hg => hchecks g (hregistrations.mem_iff.mpr hg)
        · rw [← start.registerAll_perm hregistrations hkinds, hall]
      exact .inl ⟨r, rfl, hother⟩
  | error e =>
      cases hother : start.registerEach n.registrations with
      | error f => exact .inr ⟨e, f, rfl, rfl⟩
      | ok r =>
          -- All checks succeed in the other order, so they do in this one.
          have hchecks := (Registry.registerEach_eq_ok_iff.mp hother).1
          have hok : start.registerEach m.registrations = .ok (start.registerAll m.registrations) :=
            Registry.registerEach_eq_ok_iff.mpr
              ⟨fun g hg => hchecks g (hregistrations.mem_iff.mp hg), rfl⟩
          exact absurd (hrun.symm.trans hok) (by simp)

/-- Calls that are all accepted, and that declare no type and no kind twice, are all accepted
in any other order, and they lead to the same registry over every base, or to none. -/
theorem register_perm {calls other : List Call} (hperm : calls.Perm other)
    (h : declareAll calls = .ok m) (htypes : (m.types.map ClassType.name).Nodup)
    (hkinds : m.kinds.Nodup) :
    ∃ n, declareAll other = .ok n ∧ ∀ base, m.RegistersLike n base := by
  obtain ⟨hread, rfl, hnames⟩ := declareAll_eq_ok_iff.mp h
  have hdeclared := hperm.filterMap Call.declaration?
  refine ⟨ofDeclarations (other.filterMap Call.declaration?), ?_, ?_⟩
  · refine declareAll_eq_ok_iff.mpr ⟨fun c hc => hread c (hperm.mem_iff.mpr hc), rfl, ?_⟩
    have hclasses := (hdeclared.filterMap Declaration.markedClass?).map MarkedClass.name
    exact hclasses.nodup_iff.mp hnames
  · intro base
    refine registersLike_of_perm (hdeclared.filterMap _) ?_ htypes hkinds base
    have hviews := (hdeclared.filterMap Declaration.view?).map Registration.view
    have hresources := (hdeclared.filterMap Declaration.resource?).map
      fun d => Registration.resource d.kind d.variants
    have hlisteners := (hdeclared.filterMap Declaration.listener?).map
      fun d => Registration.listener d.kind d.spec
    exact (hviews.append hresources).append hlisteners

end

end Manifest

/-! ### A kind before its types -/

namespace SlideView

open Script

/-- A table of named fields. -/
def fields (entries : List (String × Value)) : Entries :=
  entries.map fun entry => (.ofText entry.1, entry.2)

/-- The tables that declare a kind of listener, its owner and its listener type. -/
def store : Store :=
  ⟨#[fields [("name", .ofText "OnSlide"), ("owner", .ofText "android.view.View"),
        ("listener", .ofText "com.example.Slide$Listener"), ("setter", .ofText "setOnSlide"),
        ("callback", .ofText "onSlide")],
      fields [("name", .ofText "android.view.View"), ("methods", .table ⟨3⟩)],
      fields [("name", .ofText "com.example.Slide$Listener"), ("interface", .boolean true),
        ("methods", .table ⟨4⟩)],
      [(.integer 1, .table ⟨5⟩)],
      [(.integer 1, .table ⟨6⟩)],
      fields [("name", .ofText "setOnSlide"), ("args", .table ⟨7⟩)],
      fields [("name", .ofText "onSlide"), ("abstract", .boolean true)],
      [(.integer 1, .ofText "com.example.Slide$Listener")]]⟩

/-- The kind is declared before the types that it names. -/
def calls : List Call :=
  [⟨store, .listener, .table ⟨0⟩⟩, ⟨store, .type, .table ⟨1⟩⟩, ⟨store, .type, .table ⟨2⟩⟩]

/-- All calls are accepted. -/
theorem declareAll_calls : Manifest.declareAll calls = .ok manifest := by decide +kernel

/-- With the types first, the calls lead to the same registry over every base, and over the
built-in kinds there is one. -/
theorem register_perm_calls : calls.Perm calls.reverse
    ∧ Manifest.declareAll calls = .ok manifest
    ∧ (manifest.types.map ClassType.name).Nodup ∧ manifest.kinds.Nodup
    ∧ ∃ n, Manifest.declareAll calls.reverse = .ok n
      ∧ (∀ base, manifest.RegistersLike n base)
      ∧ ∃ r, manifest.registry = .ok r ∧ n.registry = .ok r := by
  have hperm : calls.Perm calls.reverse := (List.reverse_perm calls).symm
  have hkinds : manifest.kinds.Nodup := by decide +kernel
  obtain ⟨n, hn, hlike⟩ := Manifest.register_perm hperm declareAll_calls nodup_types hkinds
  refine ⟨hperm, declareAll_calls, nodup_types, hkinds, n, hn, hlike, ?_⟩
  obtain ⟨r, hr, -, -⟩ := exists_registry_manifest
  obtain ⟨base, hbase, hregister⟩ := exists_of_bind_eq_ok hr
  -- There is a registry in one order, so it is the one of both.
  obtain ⟨r', hfirst, hother⟩ | ⟨e, -, hfails, -⟩ := hlike base
  · obtain rfl : r = r' := Except.ok.inj (hregister.symm.trans hfirst)
    refine ⟨r, hr, ?_⟩
    rw [Manifest.registry, hbase]
    exact hother
  · exact absurd (hregister.symm.trans hfails) (by simp)

end SlideView

end BindingCompiler
