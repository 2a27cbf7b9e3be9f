import BindingCompiler.Proofs.Marker.Validity
import BindingCompiler.Proofs.Registry.Runs
import Mathlib.Data.List.Induction

/-!
# `BindingCompiler.Proofs.Registry.History`: the last successful registration

A history is a list of operations on a registry that starts without kinds: classes are
declared and registrations are attempted, in any order. An attempt that is refused leaves
the registry as it is. Each attempt is checked over the class path of its moment, so what a
listener spec stands for can depend on the declarations before it.

`LastRegistered cp history kind d` says of the history alone that the last successful
registration of `kind` gave it the descriptor `d`, and `NeverRegistered` that there was
none. `descriptor?_after_iff` shows that the table of a registry is exactly this. It rests on
`descriptor?_of_silent`: operations among which no registration of a kind succeeds keep its
descriptor.

`tabulates_after` is the statement for users of a registry. `Query` lists the questions
that a registry answers about a kind, `Answers` the answer that a descriptor holds for
each of them. A query is answered from the last successful registration, fails with an
unknown kind if there was none, and with a wrong family if the kind is of another one;
there is no other error.
-/

set_option autoImplicit false

namespace BindingCompiler

/-- What is done to a registry. -/
inductive Operation where
  | declare (c : ClassType)
  | register (g : Registration)
  deriving DecidableEq, Repr

/-- What a registration makes of its kind over a class path: a view, the variants that it
gives, or its listener spec with the methods that the spec stands for. -/
inductive ClassPath.Makes (cp : ClassPath) : Registration → Descriptor → Prop
  | view (kind : Kind) : Makes cp (.view kind) .view
  | resource (kind : Kind) (variants : List ResourceSpec) :
      Makes cp (.resource kind variants) (.resource variants)
  | listener (kind : Kind) {spec : ListenerSpec} {resolved : ResolvedListener}
      (spec_eq : resolved.spec = spec) (resolves : cp.resolveListener spec = .ok resolved) :
      Makes cp (.listener kind spec) (.listener resolved)

namespace Registry

/-- The registry after an operation. -/
def perform (r : Registry) : Operation → Registry
  | .declare c => r.declare c
  | .register g => r.attempt g

/-- The registry after a history over a class path. -/
def after (cp : ClassPath) (history : List Operation) : Registry :=
  history.foldl perform (ofClassPath cp)

/-- A registration succeeds and makes the descriptor of its kind. -/
def Succeeds (r : Registry) (g : Registration) (d : Descriptor) : Prop :=
  (∃ next, r.register g = .ok next) ∧ r.classPath.Makes g d

/-- After `earlier`, no registration of the kind among the operations `later` succeeds. -/
def Silent (cp : ClassPath) (earlier later : List Operation) (kind : Kind) : Prop :=
  ∀ front g rest, later = front ++ .register g :: rest → g.kind = kind →
    ∃ e, (after cp (earlier ++ front)).register g = .error e

/-- No registration of the kind succeeds. -/
def NeverRegistered (cp : ClassPath) (history : List Operation) (kind : Kind) : Prop :=
  Silent cp [] history kind

/-- The last successful registration of the kind makes it the descriptor. -/
def LastRegistered (cp : ClassPath) (history : List Operation) (kind : Kind) (d : Descriptor) :
    Prop :=
  ∃ earlier g later, history = earlier ++ .register g :: later ∧ g.kind = kind
    ∧ (after cp earlier).Succeeds g d ∧ Silent cp (earlier ++ [.register g]) later kind

/-! ### One operation -/

section
variable {cp : ClassPath} {r : Registry} {kind : Kind} {d : Descriptor}

/-- A registration succeeds exactly if its check gives the descriptor. -/
theorem succeeds_iff {g : Registration} : r.Succeeds g d ↔ r.classPath.check g = .ok d := by
  constructor
  · rintro ⟨⟨next, hnext⟩, hmakes⟩
    obtain ⟨e, he, -⟩ := register_eq_ok_iff.mp hnext
    cases hmakes with
    | view kind => rfl
    | resource kind variants =>
        simp only [ClassPath.check] at he ⊢
        split at he
        · exact absurd he (by simp)
        · rfl
    | listener kind spec_eq resolves => exact ClassPath.check_of_resolveListener resolves
  · intro h
    refine ⟨⟨_, register_eq_ok_iff.mpr ⟨d, h, rfl⟩⟩, ?_⟩
    obtain ⟨haccepts, hregistration⟩ := ClassPath.accepts_of_check h
    rw [← hregistration]
    cases d with
    | view => exact .view _
    | resource variants => exact .resource _ variants
    | listener resolved => exact .listener _ rfl haccepts

/-- An attempt that succeeds enters the descriptor of its kind. -/
theorem attempt_of_succeeds {g : Registration} (h : r.Succeeds g d) :
    r.attempt g = r.enter g.kind d := by
  rw [attempt, register_eq_ok_iff.mpr ⟨d, succeeds_iff.mp h, rfl⟩]

/-- A registration makes a descriptor, or it is refused with an error. -/
theorem succeeds_or_refused (r : Registry) (g : Registration) :
    (∃ d, r.Succeeds g d) ∨ ∃ e, r.register g = .error e := by
  cases hcheck : r.classPath.check g with
  | ok d => exact .inl ⟨d, succeeds_iff.mpr hcheck⟩
  | error fault => exact .inr ⟨_, by rw [register_eq, hcheck]⟩

/-- An attempt that is refused leaves the registry as it is. -/
theorem attempt_of_refused {g : Registration} {e : RegistryError} (h : r.register g = .error e) :
    r.attempt g = r := by
  rw [attempt, h]

/-- A kind keeps its descriptor under an attempt to register another kind, and under one
that is refused. -/
theorem descriptor?_attempt_of_silent {g : Registration}
    (h : g.kind = kind → ∃ e, r.register g = .error e) :
    (r.attempt g).descriptor? kind = r.descriptor? kind := by
  obtain ⟨d, hd⟩ | ⟨e, he⟩ := r.succeeds_or_refused g
  · have hother : g.kind ≠ kind := by
      intro hkind
      obtain ⟨e, he⟩ := h hkind
      obtain ⟨next, hnext⟩ := hd.1
      exact absurd (he.symm.trans hnext) (by simp)
    rw [attempt_of_succeeds hd, descriptor?_enter, if_neg hother]
  · rw [attempt_of_refused he]

end

/-! ### Histories -/

section
variable {cp : ClassPath} {earlier later history : List Operation} {kind : Kind} {d : Descriptor}

/-- A history goes on from the registry that its first part leads to. -/
theorem after_append (cp : ClassPath) (earlier later : List Operation) :
    after cp (earlier ++ later) = later.foldl perform (after cp earlier) := by
  rw [after, List.foldl_append, ← after]

/-- The last operation is performed on the registry that those before it lead to. -/
theorem after_concat (cp : ClassPath) (history : List Operation) (op : Operation) :
    after cp (history ++ [op]) = (after cp history).perform op := by
  rw [after_append]
  rfl

/-- Every history leads to a registry that declarations and attempts lead to. -/
theorem reached_after (cp : ClassPath) (history : List Operation) : (after cp history).Reached := by
  induction history using List.reverseRecOn with
  | nil => exact .start cp
  | append_singleton history op ih =>
      rw [after_concat]
      cases op with
      | declare c => exact .declare c ih
      | register g => exact .attempt g ih

/-- Where no registration of a kind succeeds, the kind keeps its descriptor. -/
theorem descriptor?_of_silent (h : Silent cp earlier later kind) :
    (after cp (earlier ++ later)).descriptor? kind = (after cp earlier).descriptor? kind := by
  -- The operation at the front moves into `earlier`.
  induction later generalizing earlier with
  | nil => rw [List.append_nil]
  | cons op rest ih =>
      have hrest : Silent cp (earlier ++ [op]) rest kind := by
        intro front g tail hsplit hkind
        have hfound := h (op :: front) g tail (by rw [hsplit]; rfl) hkind
        rwa [List.append_assoc]
      have hsplit : earlier ++ op :: rest = earlier ++ [op] ++ rest := by simp
      rw [hsplit, ih hrest, after_concat]
      cases op with
      | declare c => rfl
      | register g =>
          refine descriptor?_attempt_of_silent ?_
          intro hkind
          have hfirst := h [] g rest rfl hkind
          rwa [List.append_nil] at hfirst

/-- Operations stay silent when one more follows that does not register the kind. -/
theorem Silent.concat {op : Operation} (h : Silent cp earlier later kind)
    (hop : ∀ g, op = .register g → g.kind = kind →
      ∃ e, (after cp (earlier ++ later)).register g = .error e) :
    Silent cp earlier (later ++ [op]) kind := by
  intro front g rest hsplit hkind
  -- The registration is the last operation, or one of the operations before it.
  rcases List.eq_nil_or_concat rest with rfl | ⟨rest', last, rfl⟩
  · obtain ⟨rfl, hlast⟩ := List.append_inj' hsplit rfl
    exact hop g (List.singleton_inj.mp hlast) hkind
  · have hinit : later ++ [op] = (front ++ .register g :: rest') ++ [last] := by
      rw [hsplit]
      simp
    obtain ⟨rfl, -⟩ := List.append_inj' hinit rfl
    exact h front g rest' rfl hkind

/-- A kind has been registered with success at some last time, or never. -/
theorem lastRegistered_or_never (cp : ClassPath) (history : List Operation) (kind : Kind) :
    (∃ d, LastRegistered cp history kind d) ∨ NeverRegistered cp history kind := by
  induction history using List.reverseRecOn with
  | nil =>
      refine .inr ?_
      intro front g rest hsplit
      exact absurd hsplit (by simp)
  | append_singleton history op ih =>
      -- Either the new operation is the last success, or it adds nothing to what was said before.
      by_cases hsuccess : ∃ g d, op = .register g ∧ g.kind = kind ∧ (after cp history).Succeeds g d
      · obtain ⟨g, d, rfl, hkind, hd⟩ := hsuccess
        refine .inl ⟨d, history, g, [], rfl, hkind, hd, ?_⟩
        -- No operation follows, so there is none to be silent.
        intro front g rest hsplit
        exact absurd hsplit (by simp)
      · have hop : ∀ g, op = .register g → g.kind = kind →
            ∃ e, (after cp history).register g = .error e := by
          intro g hg hkind
          refine ((after cp history).succeeds_or_refused g).resolve_left ?_
          rintro ⟨d, hd⟩
          exact hsuccess ⟨g, d, hg, hkind, hd⟩
        rcases ih with ⟨d, earlier, g, later, rfl, hkind, hd, hsilent⟩ | hnever
        · refine .inl ⟨d, earlier, g, later ++ [op], by simp, hkind, hd, hsilent.concat ?_⟩
          intro g' hg' hkind'
          rw [List.append_assoc]
          exact hop g' hg' hkind'
        · exact .inr (hnever.concat hop)

/-- The last successful registration of a kind gives the descriptor that the kind has. -/
theorem LastRegistered.descriptor?_eq (h : LastRegistered cp history kind d) :
    (after cp history).descriptor? kind = some d := by
  obtain ⟨earlier, g, later, rfl, hkind, hd, hsilent⟩ := h
  have hsplit : earlier ++ .register g :: later = earlier ++ [.register g] ++ later := by simp
  rw [hsplit, descriptor?_of_silent hsilent, after_concat, perform, attempt_of_succeeds hd,
    descriptor?_enter, if_pos hkind]

/-- A kind without a successful registration has no descriptor, since there are no kinds at the
beginning. -/
theorem NeverRegistered.descriptor?_eq (h : NeverRegistered cp history kind) :
    (after cp history).descriptor? kind = none := by
  have hkept := descriptor?_of_silent h
  rwa [List.nil_append] at hkept

/-- The descriptor of a kind is that of its last successful registration. -/
theorem descriptor?_after_iff :
    (after cp history).descriptor? kind = some d ↔ LastRegistered cp history kind d := by
  refine ⟨?_, LastRegistered.descriptor?_eq⟩
  intro h
  obtain ⟨e, he⟩ | hnever := lastRegistered_or_never cp history kind
  · have hsame := he.descriptor?_eq
    rw [h, Option.some.injEq] at hsame
    exact hsame ▸ he
  · rw [hnever.descriptor?_eq] at h
    exact absurd h (by simp)

end

/-! ### Queries -/

/-- The questions that a registry answers about a kind. -/
inductive Query where
  /-- The family of the kind. -/
  | family
  /-- The variants of a resource kind. -/
  | variants
  /-- The first variant of a resource kind. -/
  | primaryVariant
  /-- The variant of a resource kind that fits a field of the type. -/
  | fittingVariant (type : TypeName)
  /-- The spec of a listener kind. -/
  | spec
  /-- A listener kind with the methods that it stands for. -/
  | listener
  deriving DecidableEq, Repr

/-- What a query is answered with. -/
inductive Answer where
  | family (family : Family)
  | variants (variants : List ResourceSpec)
  | variant (variant : ResourceSpec)
  | fitting (variant? : Option ResourceSpec)
  | spec (spec : ListenerSpec)
  | listener (resolved : ResolvedListener)
  deriving DecidableEq, Repr

/-- The family that a kind has to be of for a query; any will do for the question after it. -/
def Query.family? : Query → Option Family
  | .family => none
  | .variants | .primaryVariant | .fittingVariant _ => some .resource
  | .spec | .listener => some .listener

/-- Asks a registry about a kind. -/
def ask (r : Registry) (kind : Kind) : Query → Except RegistryError Answer
  | .family => (r.family kind).map .family
  | .variants => (r.variants kind).map .variants
  | .primaryVariant => (r.primaryVariant kind).map .variant
  | .fittingVariant type => (r.resolveVariant kind type).map .fitting
  | .spec => (r.listener kind).map fun l => .spec l.spec
  | .listener => (r.listener kind).map .listener

/-- The answer that a descriptor holds for a query. -/
inductive Answers (cp : ClassPath) : Descriptor → Query → Answer → Prop
  | family (d : Descriptor) : Answers cp d .family (.family d.family)
  | variants (variants : List ResourceSpec) :
      Answers cp (.resource variants) .variants (.variants variants)
  | primaryVariant (first : ResourceSpec) (others : List ResourceSpec) :
      Answers cp (.resource (first :: others)) .primaryVariant (.variant first)
  | fittingVariant (variants : List ResourceSpec) (type : TypeName) :
      Answers cp (.resource variants) (.fittingVariant type)
        (.fitting (fittingVariant? cp variants type))
  | spec (resolved : ResolvedListener) : Answers cp (.listener resolved) .spec (.spec resolved.spec)
  | listener (resolved : ResolvedListener) :
      Answers cp (.listener resolved) .listener (.listener resolved)

section
variable {r : Registry} {kind : Kind} {d : Descriptor} {q : Query}

/-- Every query about a kind without a descriptor fails with an unknown kind, whatever family it is
for. -/
theorem ask_of_descriptor?_eq_none (h : r.descriptor? kind = none) (q : Query) :
    r.ask kind q = .error (.unknownKind kind) := by
  have hdescriptor : r.descriptor kind = .error (.unknownKind kind) := by rw [descriptor, h]
  cases q <;>
    simp [ask, family, Registry.variants, primaryVariant, resolveVariant, listener, hdescriptor,
      Except.map]

/-- A query for another family than that of the descriptor fails with both families. -/
theorem ask_of_family_ne (h : r.descriptor? kind = some d) {wanted : Family}
    (hwanted : q.family? = some wanted) (hne : d.family ≠ wanted) :
    r.ask kind q = .error (.wrongFamily kind wanted d.family) := by
  have hdescriptor : r.descriptor kind = .ok d := by rw [descriptor, h]
  cases q <;> cases hwanted <;> cases d <;>
    first
    | exact absurd rfl hne
    | simp [ask, Registry.variants, primaryVariant, resolveVariant, listener, hdescriptor,
        Descriptor.family, Except.map]

/-- A query for the family of the descriptor, or for any, has the answer that the
descriptor holds, unless it is a resource kind without variants. -/
theorem exists_answer (h : r.descriptor? kind = some d) (hvariants : d ≠ .resource [])
    (hfamily : ∀ wanted, q.family? = some wanted → d.family = wanted) :
    ∃ a, r.ask kind q = .ok a ∧ Answers r.classPath d q a := by
  have hdescriptor : r.descriptor kind = .ok d := by rw [descriptor, h]
  -- Each query is asked of the only family that it is for.
  cases d with
  | view =>
      cases q with
      | family => exact ⟨_, by simp [ask, family, hdescriptor, Except.map], .family _⟩
      | _ => exact absurd (hfamily _ rfl) (by simp [Descriptor.family])
  | resource variants =>
      have hask : r.variants kind = .ok variants := by rw [Registry.variants, hdescriptor]
      cases q with
      | family => exact ⟨_, by simp [ask, family, hdescriptor, Except.map], .family _⟩
      | variants => exact ⟨_, by simp [ask, hask, Except.map], .variants variants⟩
      | primaryVariant =>
          cases variants with
          | nil => exact absurd rfl hvariants
          | cons first others =>
              exact ⟨_, by simp [ask, primaryVariant, hask, Except.map], .primaryVariant first others⟩
      | fittingVariant type =>
          exact ⟨_, by simp [ask, resolveVariant, hask, Except.map], .fittingVariant variants type⟩
      | _ => exact absurd (hfamily _ rfl) (by simp [Descriptor.family])
  | listener resolved =>
      have hask : r.listener kind = .ok resolved := by rw [listener, hdescriptor]
      cases q with
      | family => exact ⟨_, by simp [ask, family, hdescriptor, Except.map], .family _⟩
      | spec => exact ⟨_, by simp [ask, hask, Except.map], .spec resolved⟩
      | listener => exact ⟨_, by simp [ask, hask, Except.map], .listener resolved⟩
      | _ => exact absurd (hfamily _ rfl) (by simp [Descriptor.family])

/-- The list has every kind that has a descriptor, with the family of the descriptor. -/
theorem mem_kindList_iff {family : Family} :
    (kind, family) ∈ r.kindList ↔ ∃ d, r.descriptor? kind = some d ∧ d.family = family := by
  unfold kindList descriptor?
  simp only [Table.toList, List.mem_map, Option.map_eq_some_iff, Prod.mk.injEq]
  constructor
  · rintro ⟨k, hk, rfl, rfl⟩
    exact ⟨k.descriptor, ⟨k, Table.get?_eq_some_iff.mpr ⟨hk, rfl⟩, rfl⟩, rfl⟩
  · rintro ⟨_, ⟨k, hk, rfl⟩, rfl⟩
    obtain ⟨hmem, hname⟩ := Table.get?_eq_some_iff.mp hk
    -- The table is sorted by name, and a kind is nothing but its name.
    refine ⟨k, hmem, ?_, rfl⟩
    cases hkind : k.kind
    cases kind
    simp_all

/-- The list ascends by the names of the kinds. -/
theorem kindList_ascending (r : Registry) :
    r.kindList.Pairwise fun a b => a.1.name < b.1.name := by
  unfold kindList
  rw [List.pairwise_map]
  exact r.kinds.ascending

end

/-! ### The table of a history -/

/-- A registry answers as a history says. -/
structure Tabulates (cp : ClassPath) (history : List Operation) (r : Registry) : Prop where
  /-- A query for the family of a kind, or for any, is answered from the last successful
  registration of the kind. -/
  answered : ∀ kind d q, LastRegistered cp history kind d →
    (∀ wanted, q.family? = some wanted → d.family = wanted) →
    ∃ a, r.ask kind q = .ok a ∧ Answers r.classPath d q a
  /-- A kind is unknown exactly if no registration of it has succeeded. -/
  unknown : ∀ kind q, r.ask kind q = .error (.unknownKind kind) ↔ NeverRegistered cp history kind
  /-- A query is for a wrong family exactly if the last successful registration made the
  kind one of another family. -/
  wrongFamily : ∀ kind q wanted actual, r.ask kind q = .error (.wrongFamily kind wanted actual) ↔
    q.family? = some wanted ∧ actual ≠ wanted
      ∧ ∃ d, LastRegistered cp history kind d ∧ d.family = actual
  /-- There is no other error. -/
  noOtherError : ∀ kind q e, r.ask kind q = .error e →
    e = .unknownKind kind ∨ ∃ wanted actual, e = .wrongFamily kind wanted actual
  /-- No list of variants is empty. -/
  variants_ne_nil : ∀ kind, r.ask kind .variants ≠ .ok (.variants [])
  /-- A kind is there exactly if a registration of it has succeeded. -/
  contains : ∀ kind, r.contains kind = true ↔ ∃ d, LastRegistered cp history kind d
  /-- A registration that is refused changes nothing. -/
  refused : ∀ g e, r.register g = .error e → after cp (history ++ [.register g]) = r
  /-- Every registered kind is listed with its family. -/
  listed : ∀ kind family, (kind, family) ∈ r.kindList ↔
    ∃ d, LastRegistered cp history kind d ∧ d.family = family
  /-- The list ascends, so no kind is listed twice. -/
  ascending : r.kindList.Pairwise fun a b => a.1.name < b.1.name

/-- A registered resource kind has variants. -/
theorem LastRegistered.ne_resource_nil {cp : ClassPath} {history : List Operation} {kind : Kind}
    {d : Descriptor} (h : LastRegistered cp history kind d) : d ≠ .resource [] := by
  rintro rfl
  obtain ⟨cp', haccepts⟩ := (reached_after cp history).accepts h.descriptor?_eq
  have hfault : cp'.variantsFault? [] = none := haccepts
  exact absurd hfault (by simp [ClassPath.variantsFault?])

/-- A registered kind answers all queries but those for another family. -/
theorem LastRegistered.exists_answer {cp : ClassPath} {history : List Operation} {kind : Kind}
    {d : Descriptor} (h : LastRegistered cp history kind d) {q : Query}
    (hfamily : ∀ wanted, q.family? = some wanted → d.family = wanted) :
    ∃ a, (after cp history).ask kind q = .ok a ∧ Answers (after cp history).classPath d q a :=
  Registry.exists_answer h.descriptor?_eq h.ne_resource_nil hfamily

/-- A query meets no registration, or one of another family, or one that answers it. -/
theorem ask_after_cases (cp : ClassPath) (history : List Operation) (kind : Kind) (q : Query) :
    (NeverRegistered cp history kind ∧ (after cp history).ask kind q = .error (.unknownKind kind))
      ∨ (∃ d wanted, LastRegistered cp history kind d ∧ q.family? = some wanted
        ∧ d.family ≠ wanted
        ∧ (after cp history).ask kind q = .error (.wrongFamily kind wanted d.family))
      ∨ ∃ a, (after cp history).ask kind q = .ok a := by
  obtain ⟨d, hd⟩ | hnever := lastRegistered_or_never cp history kind
  · by_cases hfamily : ∀ wanted, q.family? = some wanted → d.family = wanted
    · obtain ⟨a, ha, -⟩ := hd.exists_answer hfamily
      exact .inr (.inr ⟨a, ha⟩)
    · obtain ⟨wanted, hdiffers⟩ := not_forall.mp hfamily
      obtain ⟨hwanted, hne⟩ := Classical.not_imp.mp hdiffers
      have hask := ask_of_family_ne hd.descriptor?_eq hwanted hne
      exact .inr (.inl ⟨d, wanted, hd, hwanted, hne, hask⟩)
  · exact .inl ⟨hnever, ask_of_descriptor?_eq_none hnever.descriptor?_eq q⟩

/-- A query for an unknown kind is one for a kind without a registration. -/
theorem ask_after_eq_unknownKind_iff {cp : ClassPath} {history : List Operation} {kind : Kind}
    {q : Query} : (after cp history).ask kind q = .error (.unknownKind kind)
      ↔ NeverRegistered cp history kind := by
  constructor
  · intro h
    obtain ⟨hnever, -⟩ | ⟨d, wanted, -, -, -, hask⟩ | ⟨a, hask⟩ := ask_after_cases cp history kind q
    · exact hnever
    · exact absurd (h.symm.trans hask) (by simp)
    · exact absurd (h.symm.trans hask) (by simp)
  · intro h
    exact ask_of_descriptor?_eq_none h.descriptor?_eq q

/-- A query for a wrong family is one for a kind that was registered with another one. -/
theorem ask_after_eq_wrongFamily_iff {cp : ClassPath} {history : List Operation} {kind : Kind}
    {q : Query} {wanted actual : Family} :
    (after cp history).ask kind q = .error (.wrongFamily kind wanted actual)
      ↔ q.family? = some wanted ∧ actual ≠ wanted
        ∧ ∃ d, LastRegistered cp history kind d ∧ d.family = actual := by
  constructor
  · intro h
    obtain ⟨-, hask⟩ | ⟨d, other, hd, hwanted, hne, hask⟩ | ⟨a, hask⟩ :=
      ask_after_cases cp history kind q
    · exact absurd (h.symm.trans hask) (by simp)
    · have hsame := h.symm.trans hask
      simp only [Except.error.injEq, RegistryError.wrongFamily.injEq, true_and] at hsame
      obtain ⟨rfl, rfl⟩ := hsame
      exact ⟨hwanted, hne, d, hd, rfl⟩
    · exact absurd (h.symm.trans hask) (by simp)
  · rintro ⟨hwanted, hne, d, hd, rfl⟩
    exact ask_of_family_ne hd.descriptor?_eq hwanted hne

/-- No query for variants is answered with an empty list: a registration without variants is refused. -/
theorem ask_after_ne_variants_nil (cp : ClassPath) (history : List Operation) (kind : Kind) :
    (after cp history).ask kind .variants ≠ .ok (.variants []) := by
  intro h
  have hvariants : (after cp history).variants kind = .ok [] := by
    cases hv : (after cp history).variants kind with
    | error e => exact absurd h (by simp [ask, hv, Except.map])
    | ok variants =>
        rw [ask, hv] at h
        simp only [Except.map, Except.ok.injEq, Answer.variants.injEq] at h
        rw [h]
  -- The only descriptor with that answer is one that no registration makes.
  exact (descriptor?_after_iff.mp (variants_eq_ok_iff.mp hvariants)).ne_resource_nil rfl

/-- After any history that starts without kinds, a registry is the table of the last
successful registrations. -/
theorem tabulates_after (cp : ClassPath) (history : List Operation) :
    Tabulates cp history (after cp history) := by
  refine
    { answered := fun kind d q hd hfamily => hd.exists_answer hfamily
      unknown := fun kind q => ask_after_eq_unknownKind_iff
      wrongFamily := fun kind q wanted actual => ask_after_eq_wrongFamily_iff
      noOtherError := fun kind q e h => ?_
      variants_ne_nil := ask_after_ne_variants_nil cp history
      contains := fun kind => ?_
      refused := fun g e h => ?_
      listed := fun kind family => ?_
      ascending := kindList_ascending _ }
  · obtain ⟨-, hask⟩ | ⟨d, wanted, -, -, -, hask⟩ | ⟨a, hask⟩ := ask_after_cases cp history kind q
    · rw [hask] at h
      cases h
      exact .inl rfl
    · rw [hask] at h
      cases h
      exact .inr ⟨wanted, d.family, rfl⟩
    · exact absurd (h.symm.trans hask) (by simp)
  · rw [Registry.contains, Option.isSome_iff_exists]
    exact exists_congr fun d => descriptor?_after_iff
  · rw [after_concat]
    exact attempt_of_refused h
  · rw [mem_kindList_iff]
    exact exists_congr fun d => and_congr_left fun _ => descriptor?_after_iff

end Registry

end BindingCompiler
