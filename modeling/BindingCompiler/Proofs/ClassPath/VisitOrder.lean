import BindingCompiler.Proofs.ClassPath.Reachability
import Mathlib.Data.List.Induction
import Mathlib.Data.List.Lex
import Mathlib.Data.Prod.Lex

/-!
# `BindingCompiler.Proofs.ClassPath.VisitOrder`: which supertype is visited first

The walk to all supertypes decides between interfaces that disagree, so its order matters. A way
from a type says which of the direct supertypes to take at each step, by its place in the
declaration. Ways are ranked by their length, and ways of one length place by place.

* `pairwise_hierarchy`: a class stands before another one in the walk exactly when it has a way
  that ranks before all ways to the other.
* `findSome?_hierarchy_eq_some_iff`: so the first class with an answer is the one that precedes
  all others that have one, which says nothing of queues any more.

So the walk goes from near to far. It does not go from subtypes to supertypes: an interface that
is listed next to its own subtype is as near as that, and may be listed before it.

The invariant `Walking` keeps for each type in the queue the way on which it was met. Every way to
a class that is not visited yet leads past a type in the queue (`Walking.waits`), so the first of
the queue, whose way ranks lowest, is met on the lowest of all its ways.
-/

set_option autoImplicit false

namespace BindingCompiler.ClassPath

/-! ### Ways -/

/-- The type at the end of a way: each number is the place of the next type among the supertypes
of the one before. -/
def typeAt? (cp : ClassPath) (t : TypeName) : List Nat → Option TypeName
  | [] => some t
  | i :: way => (cp.get? t).bind fun c => c.supertypes[i]?.bind fun u => cp.typeAt? u way

/-- Ways are compared by their length, and then place by place. -/
def rank (way : List Nat) : Nat ×ₗ List Nat := toLex (way.length, way)

section
variable {p q : List Nat} {i j : Nat}

/-- One way ranks before another if it is shorter, or as long and earlier in the listing order. -/
theorem rank_lt_iff : rank p < rank q ↔ p.length < q.length ∨ p.length = q.length ∧ p < q :=
  Prod.Lex.toLex_lt_toLex

/-- A way ranks before those that go on from it. -/
theorem rank_lt_append (h : q ≠ []) : rank p < rank (p ++ q) := by
  have hlength := List.length_pos_iff.mpr h
  refine rank_lt_iff.mpr (.inl ?_)
  rw [List.length_append]
  omega

/-- Of lists of one length, what follows does not matter if they differ. -/
theorem append_lt_append_of_lt {α : Type} [LinearOrder α] {l m r s : List α}
    (hlength : l.length = m.length) (h : l < m) : l ++ r < m ++ s := by
  induction l generalizing m with
  | nil => exact absurd (List.length_eq_zero_iff.mp hlength.symm ▸ h) (List.not_lt_nil _)
  | cons a l ih =>
      cases m with
      | nil => exact absurd hlength (by simp)
      | cons b m =>
          rw [List.cons_append, List.cons_append]
          rcases List.cons_lt_cons_iff.mp h with hab | ⟨rfl, hlm⟩
          · exact List.cons_lt_cons_iff.mpr (.inl hab)
          · have hrest := ih (Nat.succ.inj hlength) hlm
            exact List.cons_lt_cons_iff.mpr (.inr ⟨rfl, hrest⟩)

/-- One more step on each of two ways does not change which ranks first. -/
theorem rank_concat_lt (h : rank p < rank q) : rank (p ++ [i]) < rank (q ++ [j]) := by
  rw [rank_lt_iff, List.length_append, List.length_append, List.length_singleton,
    List.length_singleton]
  rcases rank_lt_iff.mp h with hlength | ⟨hlength, hless⟩
  · exact .inl (by omega)
  · exact .inr ⟨by omega, append_lt_append_of_lt hlength hless⟩

/-- Of two steps from the end of a way, the one that is listed first ranks first. -/
theorem rank_concat_lt_of_lt (h : i < j) : rank (p ++ [i]) < rank (p ++ [j]) := by
  refine rank_lt_iff.mpr (.inr ⟨by simp, ?_⟩)
  induction p with
  | nil => exact List.cons_lt_cons_iff.mpr (.inl h)
  | cons a p ih => exact List.cons_lt_cons_iff.mpr (.inr ⟨rfl, ih⟩)

/-- Ways of one rank are the same. -/
theorem rank_injective (h : rank p = rank q) : p = q :=
  (Prod.mk.inj (toLex.injective h)).2

/-- Two ways that go on with the same step keep their ranks in order. -/
theorem rank_concat_le (h : rank p ≤ rank q) : rank (p ++ [i]) ≤ rank (q ++ [i]) := by
  rcases lt_or_eq_of_le h with hlt | heq
  · exact le_of_lt (rank_concat_lt hlt)
  · rw [rank_injective heq]

end

section
variable {cp : ClassPath} {t u : TypeName} {p q : List Nat} {i : Nat}

/-- A way in two parts leads where the second part leads from the end of the first. -/
theorem typeAt?_append (p q : List Nat) :
    cp.typeAt? t (p ++ q) = (cp.typeAt? t p).bind fun u => cp.typeAt? u q := by
  induction p generalizing t with
  | nil => rfl
  | cons i p ih =>
      rw [List.cons_append, typeAt?, typeAt?, Option.bind_assoc]
      refine congrArg (Option.bind (cp.get? t)) (funext fun c => ?_)
      rw [Option.bind_assoc]
      exact congrArg (Option.bind c.supertypes[i]?) (funext fun v => ih)

/-- The last step of a way leads from a declared class to one of its supertypes. -/
theorem typeAt?_concat_eq_some_iff : cp.typeAt? t (p ++ [i]) = some u
    ↔ ∃ v c, cp.typeAt? t p = some v ∧ cp.get? v = some c ∧ c.supertypes[i]? = some u := by
  rw [typeAt?_append, Option.bind_eq_some_iff]
  simp only [typeAt?, Option.bind_fun_some, Option.bind_eq_some_iff]
  constructor
  · rintro ⟨v, hv, c, hc, hu⟩
    exact ⟨v, c, hv, hc, hu⟩
  · rintro ⟨v, c, hv, hc, hu⟩
    exact ⟨v, hv, c, hc, hu⟩

/-- The way leads to the type, and no other way to it ranks before it. -/
structure Nearest (cp : ClassPath) (t : TypeName) (p : List Nat) (u : TypeName) : Prop where
  leads : cp.typeAt? t p = some u
  le : ∀ q, cp.typeAt? t q = some u → rank p ≤ rank q

/-- There is a way to the first type that ranks before all ways to the second one. -/
def Precedes (cp : ClassPath) (t u v : TypeName) : Prop :=
  ∃ p, cp.typeAt? t p = some u ∧ ∀ q, cp.typeAt? t q = some v → rank p < rank q

/-- A type has one nearest way. -/
theorem Nearest.eq (h : cp.Nearest t p u) (h' : cp.Nearest t q u) : p = q :=
  rank_injective (le_antisymm (h.le q h'.leads) (h'.le p h.leads))

/-- No two types precede each other. -/
theorem Precedes.asymm {v : TypeName} (h : cp.Precedes t u v) : ¬ cp.Precedes t v u := by
  obtain ⟨p, hp, hless⟩ := h
  rintro ⟨q, hq, hless'⟩
  exact lt_asymm (hless q hq) (hless' p hp)

end

/-! ### What the walk keeps -/

/-- The state of a walk from `start`, with the way on which each type of the queue was met: the
ways of the queue ascend, and so far that all that will be met later comes after them; each class
that was visited has a nearest way, which ranks before those of the queue, and its supertypes were
visited or wait. -/
structure Walking (cp : ClassPath) (start : TypeName) (queue : List (TypeName × List Nat))
    (found : List ClassType) : Prop where
  leads : ∀ e ∈ queue, cp.typeAt? start e.2 = some e.1
  ascends : queue.Pairwise fun e d => rank e.2 < rank d.2
  later : ∀ e ∈ queue, ∀ d ∈ queue, ∀ i, rank e.2 < rank (d.2 ++ [i])
  declared : ∀ c ∈ found, cp.get? c.name = some c
  nearest : ∀ c ∈ found, ∃ p, cp.Nearest start p c.name
  before : ∀ c ∈ found, ∀ p, cp.Nearest start p c.name → ∀ e ∈ queue, rank p < rank e.2
  started : ∀ c, cp.get? start = some c → c ∈ found ∨ (start, []) ∈ queue
  closed : ∀ c ∈ found, ∀ p, cp.Nearest start p c.name → ∀ i u, c.supertypes[i]? = some u →
    ∀ d, cp.get? u = some d → d ∈ found ∨ (u, p ++ [i]) ∈ queue
  precedes : found.Pairwise fun c d => cp.Precedes start c.name d.name

namespace Walking

variable {cp : ClassPath} {start t : TypeName} {p : List Nat}
  {queue rest : List (TypeName × List Nat)} {found : List ClassType} {c : ClassType}

/-- At the start nothing is visited. -/
theorem initial (cp : ClassPath) (start : TypeName) : Walking cp start [(start, [])] [] where
  leads := by simp [typeAt?]
  ascends := by simp
  later e he d hd i := by
    rw [List.mem_singleton.mp he, List.mem_singleton.mp hd]
    exact rank_lt_append (List.cons_ne_nil i [])
  declared := by simp
  nearest := by simp
  before := by simp
  started := by simp
  closed := by simp
  precedes := .nil

/-- Every way to a declared class that is not visited leads past a type that waits. -/
theorem waits (h : Walking cp start queue found) {q : List Nat} (hway : cp.typeAt? start q = some t)
    (hget : cp.get? t = some c) : c ∈ found ∨ ∃ e ∈ queue, rank e.2 ≤ rank q := by
  induction q using List.reverseRecOn generalizing t c with
  | nil =>
      cases hway
      refine (h.started c hget).imp_right fun hwaits => ?_
      exact ⟨_, hwaits, le_refl _⟩
  | append_singleton q i ih =>
      obtain ⟨u, d, hu, hd, hplace⟩ := typeAt?_concat_eq_some_iff.mp hway
      rcases ih hu hd with hfound | ⟨e, he, hle⟩
      · -- The class before the last step is visited, so what it lists has been met.
        obtain rfl := name_of_get? hd
        obtain ⟨p, hp⟩ := h.nearest d hfound
        refine (h.closed d hfound p hp i t hplace c hget).imp_right fun hwaits => ?_
        exact ⟨_, hwaits, rank_concat_le (hp.le q hu)⟩
      · exact .inr ⟨e, he, le_of_lt (lt_of_le_of_lt hle (rank_lt_append (List.cons_ne_nil i [])))⟩

/-- The first of the queue is met on its nearest way, unless it was visited before. -/
theorem nearest_head (h : Walking cp start ((t, p) :: rest) found) (hget : cp.get? t = some c)
    (hnew : c ∉ found) : cp.Nearest start p t where
  leads := h.leads _ List.mem_cons_self
  le q hq := by
    obtain ⟨e, he, hle⟩ := (h.waits hq hget).resolve_left hnew
    rcases List.mem_cons.mp he with rfl | he
    · exact hle
    · exact le_trans (le_of_lt ((List.pairwise_cons.mp h.ascends).1 e he)) hle

/-- The supertypes of a class, each with the way on which it is met. -/
def met (p : List Nat) (c : ClassType) : List (TypeName × List Nat) :=
  c.supertypes.mapIdx fun i u => (u, p ++ [i])

/-- At a type the search meets its supertypes, each on the way that goes on with the place of the
supertype in the listing. -/
theorem mem_met_iff {e : TypeName × List Nat} :
    e ∈ met p c ↔ ∃ i u, c.supertypes[i]? = some u ∧ e = (u, p ++ [i]) := by
  rw [met, List.mem_mapIdx]
  constructor
  · rintro ⟨i, hi, rfl⟩
    exact ⟨i, _, List.getElem?_eq_getElem hi, rfl⟩
  · rintro ⟨i, u, hu, rfl⟩
    obtain ⟨hi, rfl⟩ := List.getElem?_eq_some_iff.mp hu
    exact ⟨i, hi, rfl⟩

/-- The types that are met are the supertypes, in their listing order. -/
theorem map_fst_met (p : List Nat) (c : ClassType) : (met p c).map Prod.fst = c.supertypes := by
  refine List.ext_getElem? fun i => ?_
  rw [met, List.getElem?_map, List.getElem?_mapIdx, Option.map_map]
  exact Option.map_id' ..

/-- They are met in the order of their ranks. -/
theorem pairwise_met (p : List Nat) (c : ClassType) :
    (met p c).Pairwise fun e d => rank e.2 < rank d.2 := by
  rw [List.pairwise_iff_getElem]
  intro i j hi hj hij
  simp only [met, List.getElem_mapIdx]
  exact rank_concat_lt_of_lt hij

/-- What holds of the rest of the queue and of the types that are met holds of the queue after a
visit. -/
theorem forall_mem_append_met {P : TypeName × List Nat → Prop} (hrest : ∀ e ∈ rest, P e)
    (hmet : ∀ i u, c.supertypes[i]? = some u → P (u, p ++ [i])) : ∀ e ∈ rest ++ met p c, P e := by
  refine List.forall_mem_append.mpr ⟨hrest, fun e he => ?_⟩
  obtain ⟨i, u, hu, rfl⟩ := mem_met_iff.mp he
  exact hmet i u hu

/-- A class that was visited or waits is visited or waits behind the first of the queue, once the
class of that is visited. -/
theorem found_or_waits {u : TypeName} {q : List Nat} {d : ClassType}
    (hhead : ∀ d, cp.get? t = some d → d ∈ found) (hget : cp.get? u = some d)
    (h : d ∈ found ∨ (u, q) ∈ (t, p) :: rest) : d ∈ found ∨ (u, q) ∈ rest := by
  rcases h with hfound | hwaits
  · exact .inl hfound
  · rcases List.mem_cons.mp hwaits with heq | hwaits
    · exact .inl (hhead d ((Prod.mk.inj heq).1 ▸ hget))
    · exact .inr hwaits

/-- Passing over a type that was visited already, or is not declared, keeps the state. -/
theorem pass (h : Walking cp start ((t, p) :: rest) found)
    (hskip : ∀ c, cp.get? t = some c → c ∈ found) : Walking cp start rest found where
  leads e he := h.leads e (List.mem_cons_of_mem _ he)
  ascends := (List.pairwise_cons.mp h.ascends).2
  later e he d hd := h.later e (List.mem_cons_of_mem _ he) d (List.mem_cons_of_mem _ hd)
  declared := h.declared
  nearest := h.nearest
  before c hc q hq e he := h.before c hc q hq e (List.mem_cons_of_mem _ he)
  started c hc := found_or_waits hskip hc (h.started c hc)
  closed c hc q hq i u hu d hd := found_or_waits hskip hd (h.closed c hc q hq i u hu d hd)
  precedes := h.precedes

/-- Visiting a class keeps the state. -/
theorem visit (h : Walking cp start ((t, p) :: rest) found) (hget : cp.get? t = some c)
    (hnew : c ∉ found) : Walking cp start (rest ++ met p c) (found ++ [c]) := by
  have hname : c.name = t := name_of_get? hget
  have hp : cp.Nearest start p c.name := hname ▸ h.nearest_head hget hnew
  have hrest : ∀ e ∈ rest, rank p < rank e.2 := (List.pairwise_cons.mp h.ascends).1
  have hon : ∀ i, rank p < rank (p ++ [i]) := fun i => rank_lt_append (List.cons_ne_nil i [])
  have hlater : ∀ e ∈ rest, ∀ i, rank e.2 < rank (p ++ [i]) := fun e he =>
    h.later e (List.mem_cons_of_mem _ he) _ List.mem_cons_self
  -- The class itself is visited now, and what waits behind it still does.
  have hkeeps : ∀ {d u q}, cp.get? u = some d → d ∈ found ∨ (u, q) ∈ (t, p) :: rest →
      d ∈ found ++ [c] ∨ (u, q) ∈ rest ++ met p c := by
    intro d u q hd hwas
    have hhead : ∀ e, cp.get? t = some e → e ∈ found ++ [c] := by
      intro e he
      rw [hget] at he
      cases he
      exact List.mem_append_right _ List.mem_cons_self
    exact (found_or_waits hhead hd (hwas.imp_left (List.mem_append_left _))).imp_right
      (List.mem_append_left _)
  refine
    { leads := ?leads
      ascends := ?ascends
      later := ?later
      declared := List.forall_mem_append.mpr
        ⟨h.declared, List.forall_mem_singleton.mpr (hname ▸ hget)⟩
      nearest := List.forall_mem_append.mpr
        ⟨h.nearest, List.forall_mem_singleton.mpr ⟨p, hp⟩⟩
      before := List.forall_mem_append.mpr ⟨?before, List.forall_mem_singleton.mpr ?beforeNew⟩
      started := fun d hd => hkeeps hd (h.started d hd)
      closed := List.forall_mem_append.mpr
        ⟨fun d hd q hq i u hu e he => hkeeps he (h.closed d hd q hq i u hu e he),
          List.forall_mem_singleton.mpr ?closedNew⟩
      precedes := List.pairwise_append.mpr
        ⟨h.precedes, List.pairwise_singleton _ _, ?precedes⟩ }
  case leads =>
    refine forall_mem_append_met (fun e he => h.leads e (List.mem_cons_of_mem _ he)) ?_
    intro i u hu
    exact typeAt?_concat_eq_some_iff.mpr ⟨_, c, h.leads _ List.mem_cons_self, hget, hu⟩
  case ascends =>
    refine List.pairwise_append.mpr
      ⟨(List.pairwise_cons.mp h.ascends).2, pairwise_met p c, fun e he d hd => ?_⟩
    obtain ⟨i, u, -, rfl⟩ := mem_met_iff.mp hd
    exact hlater e he i
  case later =>
    -- What is met here goes on from `p`, and that ranks before all that waits.
    refine forall_mem_append_met (fun e he => ?_) fun i u hu => ?_
    · refine forall_mem_append_met (fun d hd => ?_) fun i u hu j => ?_
      · exact h.later e (List.mem_cons_of_mem _ he) d (List.mem_cons_of_mem _ hd)
      · exact lt_trans (hlater e he i) (rank_lt_append (List.cons_ne_nil j []))
    · refine forall_mem_append_met (fun d hd j => ?_) fun k v hv j => ?_
      · exact rank_concat_lt (hrest d hd)
      · exact rank_concat_lt (hon k)
  case before =>
    intro d hd q hq
    have hbefore := h.before d hd q hq
    exact forall_mem_append_met (fun e he => hbefore e (List.mem_cons_of_mem _ he))
      fun i _ _ => lt_trans (hbefore _ List.mem_cons_self) (hon i)
  case beforeNew =>
    intro q hq
    rw [hq.eq hp]
    exact forall_mem_append_met hrest fun i _ _ => hon i
  case closedNew =>
    intro q hq i u hu e he
    rw [hq.eq hp]
    exact .inr (List.mem_append_right _ (mem_met_iff.mpr ⟨i, u, hu, rfl⟩))
  case precedes =>
    -- The nearest way to an older class ranks before that of the new one.
    intro d hd e he
    obtain ⟨q, hq⟩ := h.nearest d hd
    rw [List.mem_singleton.mp he]
    refine ⟨q, hq.leads, fun w hw => ?_⟩
    exact lt_of_lt_of_le (h.before d hd q hq _ List.mem_cons_self) (hp.le w hw)

/-- The walk keeps its state until the queue is empty. -/
theorem explored (h : Walking cp start queue found) :
    Walking cp start [] (cp.explore (queue.map Prod.fst) found) := by
  -- Along the walk itself, which knows the types of the queue only.
  generalize htypes : queue.map Prod.fst = types
  induction types, found using explore.induct cp generalizing queue with
  | case1 found =>
      rw [List.map_eq_nil_iff.mp htypes] at h
      rw [explore_nil]
      exact h
  | case2 found t types c hseen hget ih =>
      obtain ⟨⟨u, p⟩, rest, rfl, rfl, rfl⟩ := List.map_eq_cons_iff.mp htypes
      have hnew : c ∉ found := by
        rw [← any_name_iff h.declared hget, hseen]
        simp
      rw [explore_visit hseen hget]
      exact ih (h.visit hget hnew) (by rw [List.map_append, map_fst_met])
  | case3 found t types hskip ih =>
      obtain ⟨⟨u, p⟩, rest, rfl, rfl, rfl⟩ := List.map_eq_cons_iff.mp htypes
      cases hget : cp.get? u with
      | none =>
          rw [explore_undeclared hget]
          exact ih (h.pass fun d hd => absurd (hget.symm.trans hd) (by simp)) rfl
      | some c =>
          cases hseen : found.any fun f => f.name == u with
          | false => exact (hskip c hseen hget).elim
          | true =>
              rw [explore_seen hseen]
              exact ih (h.pass fun d hd => (any_name_iff h.declared hd).mp hseen) rfl

end Walking

/-! ### The order of the walk -/

/-- A class of the walk precedes those after it. -/
theorem pairwise_hierarchy (cp : ClassPath) (t : TypeName) :
    (cp.hierarchy t).Pairwise fun c d => cp.Precedes t c.name d.name :=
  (Walking.initial cp t).explored.precedes

/-- The class is declared and the type reaches it, or is the type itself. -/
def Above (cp : ClassPath) (t : TypeName) (c : ClassType) : Prop :=
  cp.get? c.name = some c ∧ cp.Reaches t c.name

/-- The first class of the walk that has an answer precedes all others that have one. -/
theorem findSome?_hierarchy_eq_some_iff {cp : ClassPath} {t : TypeName} {α : Type}
    {f : ClassType → Option α} {a : α} : (cp.hierarchy t).findSome? f = some a
      ↔ ∃ c, cp.Above t c ∧ f c = some a
        ∧ ∀ d, cp.Above t d → f d ≠ none → d ≠ c → cp.Precedes t c.name d.name := by
  have hfirst : ∀ {b}, (cp.hierarchy t).findSome? f = some b → ∃ c, cp.Above t c ∧ f c = some b
      ∧ ∀ d, cp.Above t d → f d ≠ none → d ≠ c → cp.Precedes t c.name d.name := by
    intro b hb
    obtain ⟨before, c, after, hsplit, hc, hnone⟩ := List.findSome?_eq_some_iff.mp hb
    have hmem : c ∈ cp.hierarchy t := hsplit ▸ List.mem_append_right _ List.mem_cons_self
    refine ⟨c, mem_hierarchy_iff.mp hmem, hc, fun d hd hanswer hne => ?_⟩
    have hd : d ∈ before ++ c :: after := hsplit ▸ mem_hierarchy_iff.mpr hd
    rcases List.mem_append.mp hd with hd | hd
    · exact absurd (hnone d hd) hanswer
    · have hpairs := List.pairwise_append.mp (hsplit ▸ cp.pairwise_hierarchy t)
      exact (List.pairwise_cons.mp hpairs.2.1).1 d ((List.mem_cons.mp hd).resolve_left hne)
  constructor
  · exact hfirst
  · rintro ⟨c, hc, ha, hprecedes⟩
    have hsome : ((cp.hierarchy t).findSome? f).isSome = true := by
      rw [List.findSome?_isSome_iff]
      exact ⟨c, mem_hierarchy_iff.mpr hc, by rw [ha]; rfl⟩
    obtain ⟨b, hb⟩ := Option.isSome_iff_exists.mp hsome
    obtain ⟨d, hd, hdb, hless⟩ := hfirst hb
    by_cases heq : d = c
    · rw [hb, ← hdb, heq, ha]
    · -- Two classes cannot precede each other.
      have hcd := hprecedes d hd (by rw [hdb]; simp) heq
      exact absurd hcd (hless c hc (by rw [ha]; simp) (Ne.symm heq)).asymm

end BindingCompiler.ClassPath
