import BindingCompiler.Proofs.ClassPath.Assignability
import BindingCompiler.Proofs.ClassPath.Locality
import BindingCompiler.Proofs.Marker.Turns
import BindingCompiler.Proofs.Marker.Validity
import BindingCompiler.Proofs.Registry.Acceptance
import BindingCompiler.Proofs.Registry.Runs
import BindingCompiler.Registry.Builtin
import Mathlib.Data.List.Perm.Subperm

/-!
# `BindingCompiler.Proofs.Marker.Selection`: arguments that repeat the callback's types

The arguments of a bound method can be a selection of the callback's
parameters in another order, so that each argument has a parameter of
its own type that is meant for it: the first one for the first argument
of the type, the second one for the second, and so on. But an argument
takes the first parameter that can be cast to it, and a cast goes both
ways along the hierarchy, so it may take one that is meant for another.

* `exact_iff_undistracted`: every argument is given the parameter that
  is meant for it exactly if, at its turn, all other ones that can be
  cast to it and come earlier are taken.
* `forall_undistracted_iff`: this is so for every selection exactly if
  no two different types among the parameters can be cast to each other.
* `bindsExactly_iff`: both for markers.
-/

set_option autoImplicit false

namespace BindingCompiler

namespace ClassPath

/-- The number of parameters of a type before an index. -/
def ordinal (parameters : List TypeName) (i : Nat) (type : TypeName) : Nat :=
  (parameters.take i).count type

/-- Every argument is given a parameter of its own type. -/
def Exact (parameters : List TypeName) (chosen : List Nat) (arguments : List TypeName) : Prop :=
  List.Forall₂ (fun i argument => parameters[i]? = some argument) chosen arguments

/-- What an argument could be distracted by after the arguments before
it: a parameter of another type that can be cast to it and does not come
after the one that is meant for it. All of these are taken, by the
arguments they are meant for. -/
def UndistractedAt (cp : ClassPath) (parameters before : List TypeName) (argument : TypeName) :
    Prop :=
  ∀ i type, parameters[i]? = some type → type ≠ argument → cp.isCastable type argument = true →
    ordinal parameters i argument ≤ before.count argument →
      ordinal parameters i type < before.count type

/-- No argument is distracted at its turn. -/
def Undistracted (cp : ClassPath) (parameters arguments : List TypeName) : Prop :=
  ∀ before argument after, arguments = before ++ argument :: after →
    cp.UndistractedAt parameters before argument

variable {cp : ClassPath} {parameters arguments before : List TypeName} {argument type : TypeName}
  {taken : List Nat} {i j : Nat}

/-! ### Ordinals -/

/-- Ordinals ascend. -/
theorem ordinal_le_ordinal (h : i ≤ j) : ordinal parameters i type ≤ ordinal parameters j type :=
  (List.take_sublist_take_left h).count_le type

/-- A parameter counts for those after it. -/
theorem ordinal_lt_ordinal (hi : parameters[i]? = some type) (h : i < j) :
    ordinal parameters i type < ordinal parameters j type := by
  have hnext : ordinal parameters (i + 1) type = ordinal parameters i type + 1 := by
    simp [ordinal, List.take_add_one, hi]
  have hle : ordinal parameters (i + 1) type ≤ ordinal parameters j type := ordinal_le_ordinal h
  omega

/-- Parameters of one type are told apart by their ordinals. -/
theorem eq_of_ordinal_eq (hi : parameters[i]? = some type) (hj : parameters[j]? = some type)
    (h : ordinal parameters i type = ordinal parameters j type) : i = j := by
  rcases Nat.lt_trichotomy i j with hlt | rfl | hlt
  · exact absurd h (Nat.ne_of_lt (ordinal_lt_ordinal hi hlt))
  · rfl
  · exact absurd h (Nat.ne_of_gt (ordinal_lt_ordinal hj hlt))

/-- Every ordinal below the number of parameters of a type is the ordinal of one of them. -/
theorem exists_ordinal_eq {k : Nat} (h : k < parameters.count type) :
    ∃ i, parameters[i]? = some type ∧ ordinal parameters i type = k := by
  induction parameters using List.reverseRecOn with
  | nil => exact absurd h (by simp)
  | append_singleton parameters last ih =>
      by_cases hk : k < parameters.count type
      · obtain ⟨i, hi, hordinal⟩ := ih hk
        have hlt : i < parameters.length := (List.getElem?_eq_some_iff.mp hi).1
        refine ⟨i, by rwa [List.getElem?_append_left hlt], ?_⟩
        rwa [ordinal, List.take_append_of_le_length (Nat.le_of_lt hlt)]
      · rw [List.count_append, List.count_singleton] at h
        have hlast : last = type := by
          by_contra hne
          rw [if_neg (by simpa using hne)] at h
          omega
        subst hlast
        refine ⟨parameters.length, by simp, ?_⟩
        simp only [beq_self_eq_true, if_true] at h
        rw [ordinal, List.take_left' rfl]
        omega

/-! ### Arguments that have been given their own -/

/-- Given their own are the arguments before the last, and the last. -/
theorem exact_concat_iff (hlength : taken.length = arguments.length) :
    Exact parameters (taken ++ [i]) (arguments ++ [argument])
      ↔ Exact parameters taken arguments ∧ parameters[i]? = some argument := by
  constructor
  · intro h
    have hbefore := List.forall₂_take_append _ _ _ h
    have hlast := List.forall₂_drop_append _ _ _ h
    rw [← hlength, List.take_left] at hbefore
    rw [← hlength, List.drop_left] at hlast
    cases hlast with
    | cons hi _ => exact ⟨hbefore, hi⟩
  · rintro ⟨hbefore, hi⟩
    exact List.rel_append hbefore (.cons hi .nil)

/-- Each argument takes one parameter. -/
theorem InTurn.length_eq (h : cp.InTurn parameters arguments taken) :
    taken.length = arguments.length := by
  induction h with
  | nil => rfl
  | concat _ _ ih => simp [ih]

/-- An argument that is given a parameter of its type gets the one that
is meant for it, if the parameters taken so far are those meant for the
arguments before it. -/
theorem ordinal_of_next
    (htaken : ∀ j type, parameters[j]? = some type →
      (j ∈ taken ↔ ordinal parameters j type < before.count type))
    (hnext : cp.Next parameters taken argument i) (hi : parameters[i]? = some argument) :
    ordinal parameters i argument = before.count argument := by
  have hge : ¬ ordinal parameters i argument < before.count argument := fun hlt =>
    hnext.unused ((htaken i argument hi).mpr hlt)
  by_contra hne
  -- Otherwise the parameter that is meant for the argument comes earlier and is left.
  have hcount : before.count argument < parameters.count argument := by
    have hle : ordinal parameters i argument ≤ parameters.count argument :=
      (List.take_sublist i parameters).count_le argument
    omega
  obtain ⟨j, hj, hordinal⟩ := exists_ordinal_eq hcount
  have hunused : j ∉ taken := fun hmem => by
    have := (htaken j argument hj).mp hmem
    omega
  have hle := hnext.le j hunused ⟨argument, hj, isCastable_self cp argument⟩
  have hmono : ordinal parameters i argument ≤ ordinal parameters j argument :=
    ordinal_le_ordinal hle
  omega

/-- The parameters taken by arguments that were each given one of their
type are those meant for them. -/
theorem mem_iff_ordinal_lt (h : cp.InTurn parameters arguments taken)
    (hexact : Exact parameters taken arguments) :
    ∀ j type, parameters[j]? = some type →
      (j ∈ taken ↔ ordinal parameters j type < arguments.count type) := by
  induction h with
  | nil =>
      intro j type _
      simp
  | @concat arguments taken argument i hbefore hnext ih =>
      obtain ⟨hothers, hi⟩ := (exact_concat_iff hbefore.length_eq).mp hexact
      have htaken := ih hothers
      have hordinal := ordinal_of_next htaken hnext hi
      intro j type hj
      rw [List.mem_append, List.mem_singleton, htaken j type hj, List.count_append,
        List.count_singleton]
      by_cases htype : argument = type
      · -- Of the same type, only the parameter of this very ordinal is taken in addition.
        subst htype
        have hsame : j = i ↔ ordinal parameters j argument = arguments.count argument := by
          constructor
          · rintro rfl
            exact hordinal
          · intro hj'
            exact eq_of_ordinal_eq hj hi (hj'.trans hordinal.symm)
        simp only [beq_self_eq_true, if_true]
        omega
      · have hne : j ≠ i := by
          rintro rfl
          exact htype (Option.some.inj (hi.symm.trans hj))
        simp [htype, hne]

/-! ### When every argument is given its own -/

/-- After arguments that were given their own, the next one is given its
own exactly if it is not distracted. -/
theorem exists_next_iff (h : cp.InTurn parameters before taken)
    (hexact : Exact parameters taken before)
    (hcount : before.count argument < parameters.count argument) :
    (∃ i, cp.Next parameters taken argument i ∧ parameters[i]? = some argument)
      ↔ cp.UndistractedAt parameters before argument := by
  have htaken := mem_iff_ordinal_lt h hexact
  constructor
  · rintro ⟨i, hnext, hi⟩ j type hj htype hcast hordinal
    have hmeant := ordinal_of_next htaken hnext hi
    -- The other parameter comes before the one that the argument takes, so it is not left.
    have hlt : j < i := by
      rcases Nat.lt_trichotomy j i with hlt | rfl | hlt
      · exact hlt
      · exact absurd (Option.some.inj (hj.symm.trans hi)) htype
      · have := ordinal_lt_ordinal hi hlt
        omega
    by_contra hleft
    have hunused : j ∉ taken := fun hmem => hleft ((htaken j type hj).mp hmem)
    exact absurd (hnext.le j hunused ⟨type, hj, hcast⟩) (Nat.not_le_of_lt hlt)
  · intro hundistracted
    obtain ⟨i, hi, hordinal⟩ := exists_ordinal_eq hcount
    refine ⟨i, ⟨fun hmem => ?_, ⟨argument, hi, isCastable_self cp argument⟩, ?_⟩, hi⟩
    · have := (htaken i argument hi).mp hmem
      omega
    · rintro j hunused ⟨type, hj, hcast⟩
      by_contra hlt
      have hlt : j < i := Nat.lt_of_not_le hlt
      have hlater : ¬ ordinal parameters j type < before.count type := fun hordinal =>
        hunused ((htaken j type hj).mpr hordinal)
      by_cases htype : type = argument
      · subst htype
        have := ordinal_lt_ordinal hj hlt
        omega
      · have hle : ordinal parameters j argument ≤ ordinal parameters i argument :=
          ordinal_le_ordinal (Nat.le_of_lt hlt)
        exact hlater (hundistracted j type hj htype hcast (by omega))

/-- No argument of a list is distracted exactly if none before the last is, and the last is not. -/
theorem undistracted_concat_iff :
    cp.Undistracted parameters (arguments ++ [argument])
      ↔ cp.Undistracted parameters arguments
        ∧ cp.UndistractedAt parameters arguments argument := by
  constructor
  · intro h
    refine ⟨fun before a after hsplit => ?_, h arguments argument [] rfl⟩
    exact h before a (after ++ [argument]) (by rw [hsplit]; simp)
  · rintro ⟨hbefore, hlast⟩ before a after hsplit
    rcases List.eq_nil_or_concat after with rfl | ⟨after, last, rfl⟩
    · obtain ⟨rfl, hargument⟩ := List.append_inj' hsplit rfl
      cases hargument
      exact hlast
    · refine hbefore before a after ?_
      have hsplit : arguments ++ [argument] = (before ++ a :: after) ++ [last] := by
        rw [hsplit]
        simp
      exact (List.append_inj' hsplit rfl).1

/-- The arguments of a selection are given their own exactly if none of
them is distracted. -/
theorem exact_iff_undistracted (hselection : arguments.Subperm parameters) :
    (∃ chosen, cp.InTurn parameters arguments chosen ∧ Exact parameters chosen arguments)
      ↔ cp.Undistracted parameters arguments := by
  -- From the last argument on, as the rule serves them.
  induction arguments using List.reverseRecOn with
  | nil =>
      refine ⟨fun _ before argument after h => absurd h (by simp), fun _ => ⟨[], .nil, .nil⟩⟩
  | append_singleton arguments argument ih =>
      have hfewer := ih ((List.sublist_append_left arguments [argument]).subperm.trans hselection)
      have hcount : arguments.count argument < parameters.count argument := by
        have hle := hselection.count_le argument
        simp only [List.count_append, List.count_singleton_self] at hle
        omega
      rw [undistracted_concat_iff, ← hfewer]
      constructor
      · rintro ⟨chosen, hturn, hexact⟩
        obtain ⟨taken, i, rfl, hbefore, hnext⟩ := inTurn_concat_iff.mp hturn
        obtain ⟨hothers, hi⟩ := (exact_concat_iff hbefore.length_eq).mp hexact
        exact ⟨⟨taken, hbefore, hothers⟩,
          (exists_next_iff hbefore hothers hcount).mp ⟨i, hnext, hi⟩⟩
      · rintro ⟨⟨taken, hbefore, hothers⟩, hundistracted⟩
        obtain ⟨i, hnext, hi⟩ := (exists_next_iff hbefore hothers hcount).mpr hundistracted
        exact ⟨taken ++ [i], hbefore.concat hnext,
          (exact_concat_iff hbefore.length_eq).mpr ⟨hothers, hi⟩⟩

/-- No selection distracts an argument exactly if no two different types
among the parameters can be cast to each other. -/
theorem forall_undistracted_iff :
    (∀ arguments : List TypeName, arguments.Subperm parameters →
        cp.Undistracted parameters arguments)
      ↔ ∀ a ∈ parameters, ∀ b ∈ parameters, a ≠ b → cp.isCastable a b = false := by
  constructor
  · intro h a ha b hb hne
    by_contra hcast
    have hcast : cp.isCastable a b = true := by simpa using hcast
    obtain ⟨i, hi, hiordinal⟩ := exists_ordinal_eq (List.count_pos_iff.mpr ha)
    obtain ⟨j, hj, hjordinal⟩ := exists_ordinal_eq (List.count_pos_iff.mpr hb)
    -- Of the two, the one whose first parameter comes later is distracted, alone as it is.
    have halone : ∀ t ∈ parameters, cp.UndistractedAt parameters [] t := fun t ht =>
      h [t] (List.singleton_subperm_iff.mpr ht) [] t [] rfl
    rcases Nat.le_total i j with hle | hle
    · have hdistracts : ordinal parameters i b ≤ ordinal parameters j b := ordinal_le_ordinal hle
      exact absurd (halone b hb i a hi hne hcast (by simp; omega)) (by simp)
    · have hdistracts : ordinal parameters j a ≤ ordinal parameters i a := ordinal_le_ordinal hle
      rw [isCastable_comm] at hcast
      exact absurd (halone a ha j b hj (Ne.symm hne) hcast (by simp; omega)) (by simp)
  · intro h arguments hselection before argument after hsplit i type hi htype hcast _
    have hargument : argument ∈ parameters := hselection.subset (by rw [hsplit]; simp)
    have hnocast := h type (List.mem_of_getElem? hi) argument hargument htype
    exact absurd (hcast.symm.trans hnocast) (by simp)

end ClassPath

/-! ### Markers on such methods -/

namespace Registry

/-- A method that a listener's marker may be placed on, with a result
that is supported and with arguments that repeat parameter types of the
callback, each type at most as often as the callback has it. -/
structure Repeats (l : ResolvedListener) (method : Method) (marker : Marker) : Prop where
  placed : WellPlaced .listener (.method method) marker
  returns : method.returns = .void ∨ method.returns = .boolean
  selection : method.parameters.Subperm l.callback.parameters

/-- The marker is accepted on the method, and every argument is given a
parameter of the callback of exactly its type. -/
def BindsExactly (r : Registry) (l : ResolvedListener) (method : Method) (marker : Marker) :
    Prop :=
  ∃ chosen, r.validate (.method method) marker
      = .ok (.listener marker.kind method marker.ids marker.isOptional l chosen
        (.between l.callback.returns method.returns))
    ∧ ClassPath.Exact l.callback.parameters chosen method.parameters

variable {r : Registry} {kind : Kind} {l : ResolvedListener} {method : Method} {marker : Marker}
  {chosen : List Nat}

/-- On such a method, a marker is accepted exactly with the parameters
that the arguments take in turn. -/
theorem Repeats.validate_eq_ok_iff (h : Repeats l method marker)
    (hl : r.descriptor? marker.kind = some (.listener l)) :
    r.validate (.method method) marker
        = .ok (.listener marker.kind method marker.ids marker.isOptional l chosen
          (.between l.callback.returns method.returns))
      ↔ r.classPath.InTurn l.callback.parameters method.parameters chosen := by
  rw [validate_method (d := .listener l) hl h.placed, validateListener_eq_ok_iff hl]
  constructor
  · rintro ⟨-, arguments, hmatched, hbinding⟩
    cases hbinding
    exact ClassPath.matchArguments_eq_ok_iff.mp hmatched
  · intro hturn
    exact ⟨ClassPath.isSupportedReturn_iff.mpr h.returns, chosen,
      ClassPath.matchArguments_eq_ok_iff.mpr hturn, rfl⟩

/-- On such a method, every argument is given its own type exactly if none is distracted. -/
theorem Repeats.bindsExactly_iff_undistracted (h : Repeats l method marker)
    (hl : r.descriptor? marker.kind = some (.listener l)) :
    r.BindsExactly l method marker
      ↔ r.classPath.Undistracted l.callback.parameters method.parameters := by
  rw [← ClassPath.exact_iff_undistracted h.selection]
  simp only [BindsExactly, h.validate_eq_ok_iff hl]

/-- For a kind of listener: a method whose arguments repeat the
callback's types is bound with every argument given a parameter of its
own type exactly if no argument is distracted by a parameter that is
meant for another; and all such methods are, exactly if no two different
types of the callback's parameters can be cast to each other. -/
theorem bindsExactly_iff (hl : r.descriptor? kind = some (.listener l)) :
    (∀ method marker, marker.kind = kind → Repeats l method marker →
        (r.BindsExactly l method marker
          ↔ r.classPath.Undistracted l.callback.parameters method.parameters))
      ∧ ((∀ method marker, marker.kind = kind → Repeats l method marker →
          r.BindsExactly l method marker)
        ↔ ∀ a ∈ l.callback.parameters, ∀ b ∈ l.callback.parameters, a ≠ b →
          r.classPath.isCastable a b = false) := by
  have hmethods : ∀ method marker, marker.kind = kind → Repeats l method marker →
      (r.BindsExactly l method marker
        ↔ r.classPath.Undistracted l.callback.parameters method.parameters) := by
    rintro method marker rfl h
    exact h.bindsExactly_iff_undistracted hl
  refine ⟨hmethods, ?_⟩
  rw [← ClassPath.forall_undistracted_iff]
  constructor
  · intro h arguments hselection
    -- Some method has these arguments, and some marker of the kind is in its place there.
    have hid : (⟨1⟩ : ResourceId).isWellFormed = true := by decide
    have hrepeats : Repeats l { name := "run", parameters := arguments, returns := .void }
        ⟨kind, [⟨1⟩], false⟩ :=
      ⟨⟨by simp, by simpa using hid, rfl, by simp [Family.targetsFields],
        by simp [Member.visibility]⟩, .inl rfl, hselection⟩
    exact (hmethods _ _ rfl hrepeats).mp (h _ _ rfl hrepeats)
  · intro h method marker hkind hrepeats
    exact (hmethods method marker hkind hrepeats).mpr (h method.parameters hrepeats.selection)

end Registry

/-! ### A listener that is told a text, any object, a view and a distance -/

namespace Drop

open ClassPath Registry

/-- The listener. -/
def drop : TypeName := ⟨"com.example.Drop$Listener"⟩

/-- Its method. -/
def onDrop : Method := Android.callback "onDrop" [.string, .object, .view, .int] .void

/-- A view that the listener is attached to. -/
def view : ClassType :=
  { ClassType.plain .view with methods := [Android.setter "setOnDrop" drop] }

/-- The classes around the listener. -/
def types : List ClassType :=
  [.plain .object, .plain .string, view, Android.listener drop onDrop]

/-- The class path of these classes. -/
def classPath : ClassPath := ClassPath.empty.insertAll types

/-- How the listener is attached. -/
def spec : ListenerSpec := viewListener drop "setOnDrop" "onDrop"

/-- What the spec stands for. -/
def resolved : ResolvedListener := ⟨spec, Android.setter "setOnDrop" drop, onDrop, [], true⟩

/-- The kind of the listener. -/
def kind : Kind := ⟨"OnDrop"⟩

/-- The registry after the registration of the kind. -/
def registry : Registry := (ofClassPath classPath).attempt (.listener kind spec)

/-- A method with these arguments. -/
def handler (parameters : List TypeName) : Method :=
  { name := "handle", parameters, returns := .void }

/-- The marker of the method. -/
def marker : Marker := ⟨kind, [⟨1⟩], false⟩

/-- The spec is accepted. -/
theorem resolveListener_spec : classPath.resolveListener spec = .ok resolved := by
  have hnames : (types.map ClassType.name).Nodup := by decide
  have hview : classPath.get? .view = some view :=
    get?_insertAll_of_mem hnames (by decide) rfl
  have hlistener : classPath.get? drop = some (Android.listener drop onDrop) :=
    get?_insertAll_of_mem hnames (by decide) rfl
  have hwalk : classPath.hierarchy .view = [view, .plain .object] :=
    explore_of_within 3 (by decide)
  have hsetter : classPath.findMethods .view "setOnDrop" = [Android.setter "setOnDrop" drop] := by
    rw [findMethods, hwalk]
    decide
  exact resolveListener_listener (by decide) (by decide) (by decide)
    (by decide) hview rfl hlistener rfl (by decide) (by decide) hsetter

/-- The kind is registered. -/
theorem registry_eq : registry = (ofClassPath classPath).enter kind (.listener resolved) := by
  have hresolved : (ofClassPath classPath).classPath.resolveListener spec = .ok resolved :=
    resolveListener_spec
  exact attempt_of_resolveListener hresolved

/-- The kind has what its spec stands for. -/
theorem descriptor?_kind : registry.descriptor? kind = some (.listener resolved) := by
  rw [registry_eq, descriptor?_enter, if_pos rfl]

/-- The classes stay as they are. -/
theorem classPath_registry : registry.classPath = classPath := by
  rw [registry_eq, enter, ofClassPath]

/-- Every class is an object. -/
theorem isCastable_object_iff :
    ∀ t ∈ [TypeName.string, .object, .view],
      classPath.isCastable t .object = true ∧ classPath.isCastable .object t = true := by
  intro t ht
  have hprimitive : ∀ t ∈ [TypeName.string, .object, .view], t.isPrimitive = false := by
    decide
  have hobject := isCastable_object classPath (hprimitive t ht)
  exact ⟨hobject, isCastable_comm classPath t .object ▸ hobject⟩

/-- No class is a number. -/
theorem isCastable_int :
    ∀ t ∈ [TypeName.string, .object, .view], classPath.isCastable t .int = false := by
  intro t ht
  have hne : ∀ t ∈ [TypeName.string, .object, .view], t ≠ .int := by decide
  cases h : classPath.isCastable t .int with
  | false => rfl
  | true => exact absurd (eq_of_isCastable h (.inr (by decide))) (hne t ht)

/-- A view is no text, and a text is no view. -/
theorem isCastable_view_string : classPath.isCastable .view .string = false := by
  have hview : classPath.hierarchy .view = [view, .plain .object] :=
    explore_of_within 3 (by decide)
  have hstring : classPath.hierarchy .string = [.plain .string, .plain .object] :=
    explore_of_within 3 (by decide)
  refine isCastable_eq_false (by decide) (by decide) (by decide) ?_ ?_
  · rw [hview]
    decide
  · rw [hstring]
    decide

/-- The number is told from the others, and the others keep their order. -/
theorem matchArguments_place : classPath.matchArguments onDrop.parameters
    (List.range onDrop.parameters.length) [.int, .string, .object, .view] = .ok [3, 0, 1, 2] := by
  have hint := isCastable_int
  simp only [List.forall_mem_cons] at hint
  simp [onDrop, Android.callback, matchArguments, List.range, List.range.loop, hint,
    isCastable_self]

/-- The object takes the text, and the text is left with the object. -/
theorem matchArguments_swap : classPath.matchArguments onDrop.parameters
    (List.range onDrop.parameters.length) [.object, .string] = .ok [0, 1] := by
  have hobject := isCastable_object_iff .string (by simp)
  simp [onDrop, Android.callback, matchArguments, List.range, List.range.loop, hobject]

/-- The object takes the text, the view takes the object, and a view and a number are left for
the text. -/
theorem matchArguments_lost : classPath.matchArguments onDrop.parameters
    (List.range onDrop.parameters.length) [.object, .view, .string] = .error .string := by
  have hstring := isCastable_object_iff .string (by simp)
  have hview := isCastable_object_iff .view (by simp)
  have hint := isCastable_int .string (by simp)
  rw [isCastable_comm] at hint
  simp [onDrop, Android.callback, matchArguments, List.range, List.range.loop, hstring, hview, hint,
    isCastable_view_string]

/-- A selection of the arguments can be marked. -/
theorem repeats_handler (parameters : List TypeName)
    (h : parameters.Subperm onDrop.parameters) : Repeats resolved (handler parameters) marker :=
  ⟨⟨by simp [marker], by decide, rfl, by simp [marker, Family.targetsFields],
    by simp [Member.visibility, handler]⟩, .inl rfl, h⟩

/-- A method that is given its own. -/
theorem bindsExactly_place :
    registry.BindsExactly resolved (handler [.int, .string, .object, .view]) marker := by
  have hrepeats := repeats_handler [.int, .string, .object, .view] (by decide)
  refine ⟨[3, 0, 1, 2], (hrepeats.validate_eq_ok_iff descriptor?_kind).mpr ?_, ?_⟩
  · rw [classPath_registry]
    exact matchArguments_eq_ok_iff.mp matchArguments_place
  · exact .cons rfl (.cons rfl (.cons rfl (.cons rfl .nil)))

/-- The marker is accepted on a method whose arguments are given each other's parameters. -/
theorem validate_swap : registry.validate (.method (handler [.object, .string])) marker
    = .ok (.listener kind (handler [.object, .string]) [⟨1⟩] false resolved [0, 1] .nothing) := by
  have hrepeats := repeats_handler [.object, .string] (by decide)
  refine (hrepeats.validate_eq_ok_iff descriptor?_kind).mpr ?_
  rw [classPath_registry]
  exact matchArguments_eq_ok_iff.mp matchArguments_swap

/-- So it is not bound exactly. -/
theorem not_bindsExactly :
    ¬ registry.BindsExactly resolved (handler [.object, .string]) marker := by
  rintro ⟨chosen, hvalid, hexact⟩
  rw [validate_swap] at hvalid
  cases hvalid
  -- The first argument, an object, is given the text.
  cases hexact with
  | cons hfirst _ => exact absurd hfirst (by decide)

/-- The marker is refused on a method whose last argument finds its parameter taken. -/
theorem validate_lost : registry.validate (.method (handler [.object, .view, .string])) marker
    = .error (.marker (.unmatchedArgument kind (handler [.object, .view, .string]) .string
      onDrop)) := by
  have hrepeats := repeats_handler [.object, .view, .string] (by decide)
  have hlistener : registry.listener marker.kind = .ok resolved :=
    listener_eq_ok_iff.mpr descriptor?_kind
  have hsupported : isSupportedReturn (handler [.object, .view, .string]).returns = true :=
    isSupportedReturn_iff.mpr hrepeats.returns
  rw [validate_method (d := .listener resolved) descriptor?_kind hrepeats.placed, validateListener]
  simp only [hlistener, hsupported, if_true]
  rw [classPath_registry, show classPath.matchArguments resolved.callback.parameters
    (List.range resolved.callback.parameters.length) (handler [.object, .view, .string]).parameters
      = _ from matchArguments_lost]
  rfl

/-- Methods whose arguments repeat the callback's types in another order
are bound to the wrong parameters, and refused. -/
theorem not_bindsExactly_swap_and_lost :
    registry.Reached ∧ registry.descriptor? kind = some (.listener resolved)
      ∧ (Repeats resolved (handler [.object, .string]) marker
        ∧ registry.validate (.method (handler [.object, .string])) marker
          = .ok (.listener kind (handler [.object, .string]) [⟨1⟩] false resolved [0, 1] .nothing)
        ∧ ¬ registry.BindsExactly resolved (handler [.object, .string]) marker)
      ∧ Repeats resolved (handler [.object, .view, .string]) marker
        ∧ registry.validate (.method (handler [.object, .view, .string])) marker
          = .error (.marker (.unmatchedArgument kind (handler [.object, .view, .string]) .string
            onDrop)) :=
  ⟨.attempt _ (.start classPath), descriptor?_kind,
    ⟨repeats_handler _ (by decide), validate_swap, not_bindsExactly⟩,
    repeats_handler _ (by decide), validate_lost⟩

/-- A method that moves only the number is bound exactly, and not every
method is. -/
theorem bindsExactly_iff_place :
    registry.descriptor? kind = some (.listener resolved)
      ∧ Repeats resolved (handler [.int, .string, .object, .view]) marker
      ∧ registry.BindsExactly resolved (handler [.int, .string, .object, .view]) marker
      ∧ registry.classPath.Undistracted onDrop.parameters [.int, .string, .object, .view]
      ∧ ¬ registry.classPath.Undistracted onDrop.parameters [.object, .string]
      ∧ ¬ ∀ method marker, marker.kind = kind → Repeats resolved method marker →
        registry.BindsExactly resolved method marker := by
  obtain ⟨hmethods, hall⟩ := bindsExactly_iff descriptor?_kind
  have hplace := repeats_handler [.int, .string, .object, .view] (by decide)
  have hswap := repeats_handler [.object, .string] (by decide)
  refine ⟨descriptor?_kind, hplace, bindsExactly_place,
    (hmethods _ _ rfl hplace).mp bindsExactly_place, fun h => ?_, fun h => ?_⟩
  · exact not_bindsExactly ((hmethods _ _ rfl hswap).mpr h)
  · have hcast := hall.mp h .string (by decide) .object (by decide) (by decide)
    rw [classPath_registry, (isCastable_object_iff .string (by simp)).1] at hcast
    exact absurd hcast (by decide)

end Drop

end BindingCompiler
