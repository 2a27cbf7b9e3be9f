import BindingCompiler.Proofs.ClassPath.OpenMethods
import BindingCompiler.Proofs.ClassPath.VisitOrder

/-!
# `BindingCompiler.Proofs.ClassPath.DefaultMethods`: bodies of interfaces

An interface may give a method a body, and so implement what the interfaces that it extends
declare (`OverridesAll`). `ClassPath.abstractMethods` looks for the first declaration in the walk
to all supertypes, and that goes from near to far. If a type lists an overridden interface beside
the overriding one, or reaches it by a shorter way, the declaration without a body may come first.

`leavesOpen_iff_of_overridesAll` says exactly when that happens. It does not happen if the
overriding interface is the nearest one, in whatever order the interfaces are listed.
-/

set_option autoImplicit false

namespace BindingCompiler

namespace ClassPath

/-- No type is a supertype of itself. -/
def Acyclic (cp : ClassPath) : Prop := ∀ u, ¬ Relation.TransGen cp.Extends u u

/-- The interface has a body for the signature, no class of the chain of parent classes declares
it, and all other types above that do are supertypes of the interface. -/
structure OverridesAll (cp : ClassPath) (t : TypeName) (i : ClassType)
    (s : String × List TypeName) : Prop where
  above : cp.Above t i
  isInterface : i.isInterface = true
  body : ∃ m ∈ i.methods, m.signature = s ∧ m.isAbstract = false
  classes : ∀ n c, cp.ancestor? t n = some c → ¬ c.Declares s
  others : ∀ c, cp.Above t c → c.Declares s → c ≠ i → Relation.TransGen cp.Extends i.name c.name

/-- Of all types above that declare the signature, this one precedes the others. -/
structure Foremost (cp : ClassPath) (t : TypeName) (s : String × List TypeName)
    (c : ClassType) : Prop where
  above : cp.Above t c
  declares : c.Declares s
  precedes : ∀ d, cp.Above t d → d.Declares s → d ≠ c → cp.Precedes t c.name d.name

/-- All ways to other types that declare the signature are longer than some way to this one. -/
def Closest (cp : ClassPath) (t : TypeName) (s : String × List TypeName) (c : ClassType) : Prop :=
  ∀ d, cp.Above t d → d.Declares s → d ≠ c → ∀ p, cp.typeAt? t p = some d.name →
    ∃ q, cp.typeAt? t q = some c.name ∧ q.length < p.length

section
variable {cp : ClassPath} {t : TypeName} {s : String × List TypeName} {i : ClassType} {m : Method}

/-- Where no class of the chain declares a signature, the foremost type that does decides. -/
theorem decision?_eq_some_iff (hclasses : ∀ n c, cp.ancestor? t n = some c → ¬ c.Declares s) :
    cp.decision? t s = some m ↔ ∃ c, cp.Foremost t s c ∧ c.declaration? s = some m := by
  have hchain : ((cp.superclasses t).findSome? fun c => c.declaration? s) = none := by
    refine List.findSome?_eq_none_iff.mpr fun c hc => ?_
    obtain ⟨n, hn⟩ := mem_superclasses_iff.mp hc
    exact ClassType.declaration?_eq_none_iff.mpr (hclasses n c hn)
  rw [decision?, hchain, Option.none_or, findSome?_hierarchy_eq_some_iff]
  simp only [ne_eq, ClassType.declaration?_eq_none_iff, Classical.not_not]
  constructor
  · rintro ⟨c, habove, hm, hprecedes⟩
    have hdeclares : c.Declares s := ClassType.declaration?_isSome_iff.mp (by rw [hm]; rfl)
    exact ⟨c, ⟨habove, hdeclares, hprecedes⟩, hm⟩
  · rintro ⟨c, hforemost, hm⟩
    exact ⟨c, hforemost.above, hm, hforemost.precedes⟩

/-- A type that is nearer than the others that declare a signature is the foremost one. -/
theorem Foremost.eq_of_closest {c d : ClassType} (hnear : cp.Closest t s c)
    (habove : cp.Above t c) (hc : c.Declares s) (hd : cp.Foremost t s d) : d = c := by
  by_contra hne
  obtain ⟨p, hp, hless⟩ := hd.precedes c habove hc (Ne.symm hne)
  obtain ⟨q, hq, hshort⟩ := hnear d hd.above hd.declares hne p hp
  exact lt_asymm (hless q hq) (rank_lt_iff.mpr (.inl hshort))

/-- A method that an interface implements for all others is still left open exactly if a
declaration without a body comes first: one that the interface overrides and that precedes it, or
a second one in the interface itself. With the body as the only declaration in the interface, and
no overridden one as near as that, it is implemented. -/
theorem leavesOpen_iff_of_overridesAll (h : cp.OverridesAll t i s) :
    (cp.LeavesOpen t s ↔ ∃ c m, cp.Foremost t s c
        ∧ (c = i ∨ Relation.TransGen cp.Extends i.name c.name)
        ∧ c.declaration? s = some m ∧ m.isAbstract = true)
      ∧ (cp.Closest t s i → (∀ m ∈ i.methods, m.signature = s → m.isAbstract = false) →
        ¬ cp.LeavesOpen t s) := by
  have hexact : cp.LeavesOpen t s ↔ ∃ c m, cp.Foremost t s c
      ∧ (c = i ∨ Relation.TransGen cp.Extends i.name c.name)
      ∧ c.declaration? s = some m ∧ m.isAbstract = true := by
    rw [leavesOpen_iff]
    constructor
    · rintro ⟨m, hm, habstract⟩
      obtain ⟨c, hforemost, hc⟩ := (decision?_eq_some_iff h.classes).mp hm
      refine ⟨c, m, hforemost, ?_, hc, habstract⟩
      exact or_iff_not_imp_left.mpr (h.others c hforemost.above hforemost.declares)
    · rintro ⟨c, m, hforemost, -, hc, habstract⟩
      exact ⟨m, (decision?_eq_some_iff h.classes).mpr ⟨c, hforemost, hc⟩, habstract⟩
  refine ⟨hexact, fun hnear hbodies hopen => ?_⟩
  obtain ⟨c, m, hforemost, -, hc, habstract⟩ := hexact.mp hopen
  obtain ⟨n, hn, hs, -⟩ := h.body
  obtain rfl := hforemost.eq_of_closest hnear h.above (hs ▸ List.mem_map_of_mem hn)
  obtain ⟨hm, hsame⟩ := ClassType.mem_of_declaration? hc
  exact absurd (habstract.symm.trans (hbodies m hm hsame)) (by decide)

end

end ClassPath

namespace DefaultWatcher

/-- A method without parameters. -/
def changed : Method := { name := "changed", parameters := [], returns := .void, isAbstract := true }

/-- An interface that leaves the method open. -/
def watcher : ClassType :=
  { ClassType.interface ⟨"com.example.Watcher"⟩ with methods := [changed] }

/-- An interface that extends it and gives the method a body. -/
def quiet : ClassType :=
  { ClassType.interface ⟨"com.example.QuietWatcher"⟩ with
    interfaces := [watcher.name], methods := [{ changed with isAbstract := false }] }

/-- An interface that lists both, the one without a body first. -/
def page : ClassType :=
  { ClassType.interface ⟨"com.example.PageWatcher"⟩ with interfaces := [watcher.name, quiet.name] }

/-- An interface that lists both, the one with a body first. -/
def tab : ClassType :=
  { ClassType.interface ⟨"com.example.TabWatcher"⟩ with interfaces := [quiet.name, watcher.name] }

/-- An interface that lists only the one with a body. -/
def row : ClassType :=
  { ClassType.interface ⟨"com.example.RowWatcher"⟩ with interfaces := [quiet.name] }

/-- The interfaces. -/
def classPath : ClassPath := ClassPath.empty.insertAll [watcher, quiet, page, tab, row]

/-- How far an interface is from the top. -/
def height (t : TypeName) : Nat :=
  if t = watcher.name then 0 else if t = quiet.name then 1 else 2

/-- Every interface is higher than those it extends. -/
theorem acyclic_classPath : classPath.Acyclic := by
  have hstep : ∀ {u v}, classPath.Extends u v → height v < height u := by
    have hall : ∀ c ∈ classPath.classes.entries, ∀ v ∈ c.supertypes, height v < height c.name := by
      decide
    rintro u v ⟨c, hc, hv⟩
    obtain ⟨hmem, rfl⟩ := ClassPath.get?_eq_some_iff.mp hc
    exact hall c hmem v hv
  have hchain : ∀ {u v}, Relation.TransGen classPath.Extends u v → height v < height u := by
    intro u v h
    induction h with
    | single h => exact hstep h
    | tail _ h ih => exact lt_trans (hstep h) ih
  exact fun u h => lt_irrefl _ (hchain h)

/-- For an interface that finds both of them, the body is the one that overrides all. -/
theorem overridesAll_quiet {c : ClassType} (hget : classPath.get? c.name = some c)
    (hparent : c.parent? = none) (hmethods : c.methods = [])
    (hwalk : (classPath.hierarchy c.name).Perm [c, quiet, watcher]) :
    classPath.OverridesAll c.name quiet changed.signature where
  above := ClassPath.mem_hierarchy_iff.mp (hwalk.mem_iff.mpr (by simp))
  isInterface := rfl
  body := ⟨_, List.mem_singleton_self _, rfl, rfl⟩
  classes n d hd := by
    have hmem := ClassPath.mem_superclasses_iff.mpr ⟨n, hd⟩
    rw [ClassPath.superclasses_of_parent_none hget hparent, List.mem_singleton] at hmem
    rw [hmem]
    simp [ClassType.Declares, hmethods]
  others d habove hdeclares hne := by
    have hd := hwalk.mem_iff.mp (ClassPath.mem_hierarchy_iff.mpr habove)
    simp only [List.mem_cons, List.not_mem_nil, or_false] at hd
    rcases hd with rfl | rfl | rfl
    · exact absurd hdeclares (by simp [ClassType.Declares, hmethods])
    · exact absurd rfl hne
    · exact .single ⟨quiet, by decide, by decide⟩

/-- The walk from the interface that lists the one without a body first. -/
theorem hierarchy_page : classPath.hierarchy page.name = [page, watcher, quiet] :=
  ClassPath.explore_of_within 5 (by decide)

/-- The walk from the interface that lists the one with a body first. -/
theorem hierarchy_tab : classPath.hierarchy tab.name = [tab, quiet, watcher] :=
  ClassPath.explore_of_within 5 (by decide)

/-- The walk from the interface that lists only the one with a body. -/
theorem hierarchy_row : classPath.hierarchy row.name = [row, quiet, watcher] :=
  ClassPath.explore_of_within 5 (by decide)

/-- Every way to the interface without a body goes on from the one with a body. -/
theorem closest_row : classPath.Closest row.name changed.signature quiet := by
  intro d habove hdeclares hne p hp
  have hd : d ∈ [row, quiet, watcher] := hierarchy_row ▸ ClassPath.mem_hierarchy_iff.mpr habove
  simp only [List.mem_cons, List.not_mem_nil, or_false] at hd
  rcases hd with rfl | rfl | rfl
  · exact absurd hdeclares (by decide)
  · exact absurd rfl hne
  · refine ⟨[0], by decide, ?_⟩
    rcases p with _ | ⟨i, _ | ⟨j, p⟩⟩
    · exact absurd hp (by decide)
    · have hget : classPath.get? row.name = some row := by decide
      rw [ClassPath.typeAt?, hget, Option.bind_some] at hp
      obtain ⟨u, hu, hend⟩ := Option.bind_eq_some_iff.mp hp
      cases hend
      exact absurd (List.mem_of_getElem? hu) (by decide)
    · simp

/-- The overridden declaration is listed first and leaves the method open, though the interface
that is listed after it has a body. -/
theorem leavesOpen_page : classPath.Acyclic
    ∧ classPath.OverridesAll page.name quiet changed.signature
    ∧ classPath.LeavesOpen page.name changed.signature := by
  have hget : classPath.get? page.name = some page := by decide
  have hchain : classPath.superclasses page.name = [page] :=
    ClassPath.superclasses_of_parent_none hget rfl
  refine ⟨acyclic_classPath, overridesAll_quiet hget rfl rfl ?_, ?_⟩
  · rw [hierarchy_page]
    exact .cons _ (.swap ..)
  · rw [ClassPath.LeavesOpen, ClassPath.abstractMethods, hchain, hierarchy_page]
    decide

/-- With the body listed first the method is implemented, and so it is where the overridden
declaration is not listed at all. -/
theorem not_leavesOpen_tab_and_row :
    (classPath.OverridesAll tab.name quiet changed.signature
        ∧ ¬ classPath.LeavesOpen tab.name changed.signature)
      ∧ classPath.OverridesAll row.name quiet changed.signature
        ∧ classPath.Closest row.name changed.signature quiet
        ∧ ¬ classPath.LeavesOpen row.name changed.signature := by
  have htab : classPath.OverridesAll tab.name quiet changed.signature :=
    overridesAll_quiet (by decide) rfl rfl (.of_eq hierarchy_tab)
  have hrow : classPath.OverridesAll row.name quiet changed.signature :=
    overridesAll_quiet (by decide) rfl rfl (.of_eq hierarchy_row)
  have hbodies : ∀ m ∈ quiet.methods, m.signature = changed.signature → m.isAbstract = false := by
    decide
  refine ⟨⟨htab, fun hopen => ?_⟩, hrow, closest_row,
    (ClassPath.leavesOpen_iff_of_overridesAll hrow).2 closest_row hbodies⟩
  obtain ⟨c, m, hforemost, -, hm, habstract⟩ :=
    (ClassPath.leavesOpen_iff_of_overridesAll htab).1.mp hopen
  have hc : c ∈ [tab, quiet, watcher] :=
    hierarchy_tab ▸ ClassPath.mem_hierarchy_iff.mpr hforemost.above
  simp only [List.mem_cons, List.not_mem_nil, or_false] at hc
  rcases hc with rfl | rfl | rfl
  · exact absurd hforemost.declares (by decide)
  · obtain ⟨hmem, hs⟩ := ClassType.mem_of_declaration? hm
    exact absurd (habstract.symm.trans (hbodies m hmem hs)) (by decide)
  · -- The body comes before the declaration that it overrides.
    have hpairs := hierarchy_tab ▸ classPath.pairwise_hierarchy tab.name
    have hbody : classPath.Precedes tab.name quiet.name watcher.name :=
      (List.pairwise_cons.mp (List.pairwise_cons.mp hpairs).2).1 watcher List.mem_cons_self
    exact hbody.asymm (hforemost.precedes quiet htab.above (by decide) (by decide))

end DefaultWatcher

end BindingCompiler
