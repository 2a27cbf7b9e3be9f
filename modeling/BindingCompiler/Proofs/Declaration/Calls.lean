import BindingCompiler.Proofs.Declaration.Readings

/-!
# `BindingCompiler.Proofs.Declaration.Calls`: manifests after calls

A script declares by calling a function with a table. The call reads the table as it is at
that time, so a `Call` carries the tables of the script beside the form and the argument;
nothing is assumed of them. A call is rejected, and then the manifest stays as it is, or it
adds one entry at the end of the list of its form (`Appends`).

`wellFormed_afterCalls` is the main fact: whatever is called, and however many of the calls
are rejected, the manifest is `WellFormed`. The names of classes are distinct because a
class is looked up before it is added; everything else is a property of a single entry,
which the reading of that entry ensures (`Proofs/Declaration/Readings`).
-/

set_option autoImplicit false

namespace BindingCompiler

/-- A call of a declaring function: the tables of the script at that time, the form that the
function takes, and the argument. -/
structure Call where
  store : Script.Store
  form : Form
  argument : Script.Value

namespace Manifest

/-- The manifest with the declaration of a call, unless the call is rejected. -/
def answer (m : Manifest) (c : Call) : Except DeclarationError Manifest :=
  m.declare c.store c.form c.argument

/-- The manifest after a call; one that is rejected changes nothing. -/
def take (m : Manifest) (c : Call) : Manifest :=
  match m.answer c with
  | .ok n => n
  | .error _ => m

/-- The manifest after calls that start without declarations. -/
def afterCalls (calls : List Call) : Manifest := calls.foldl take .empty

/-- The second manifest has one entry more, at the end of the list of the form. -/
inductive Appends (m : Manifest) : Form → Manifest → Prop
  | type (c : ClassType) : Appends m .type { m with types := m.types ++ [c] }
  | view (kind : Kind) : Appends m .view { m with views := m.views ++ [kind] }
  | resource (d : ResourceDecl) : Appends m .resource { m with resources := m.resources ++ [d] }
  | listener (d : ListenerDecl) : Appends m .listener { m with listeners := m.listeners ++ [d] }
  | markedClass (c : MarkedClass) :
      Appends m .markedClass { m with classes := m.classes ++ [c] }

/-- The declarations of a manifest are well formed, and no class is declared twice. -/
structure WellFormed (m : Manifest) : Prop where
  types : ∀ c ∈ m.types, c.WellDeclared
  views : ∀ k ∈ m.views, k.IsTrimmed
  resources : ∀ d ∈ m.resources, d.kind.IsTrimmed ∧ d.variants ≠ []
  listeners : ∀ d ∈ m.listeners, d.kind.IsTrimmed
  classes : ∀ c ∈ m.classes, c.WellDeclared
  nodup_classes : (m.classes.map MarkedClass.name).Nodup

end Manifest

/-! ### One declaration -/

/-- What a call declares, if its table can be read. -/
def Call.declaration? (c : Call) : Option Declaration :=
  match c.argument with
  | .table ref => (c.form.read c.store ref).toOption
  | _ => none

/-- The form of a declaration. -/
def Declaration.form : Declaration → Form
  | .type _ => .type
  | .view _ => .view
  | .resource _ => .resource
  | .listener _ => .listener
  | .markedClass _ => .markedClass

/-- What a reading ensures of a declaration. -/
def Declaration.WellDeclared : Declaration → Prop
  | .type c => c.WellDeclared
  | .view k => k.IsTrimmed
  | .resource d => d.kind.IsTrimmed ∧ d.variants ≠ []
  | .listener d => d.kind.IsTrimmed
  | .markedClass c => c.WellDeclared

/-- A declaration that is read is well declared, and of the form that it is read as. -/
theorem Form.wellDeclared_of_read {s : Script.Store} {ref : Script.TableRef} {form : Form}
    {d : Declaration} (h : form.read s ref = .ok d) : d.WellDeclared ∧ d.form = form := by
  cases form with
  | type =>
      obtain ⟨c, hc, h⟩ := exists_of_bind_eq_ok h
      cases h
      exact ⟨Declaration.yields_typeOf c hc, rfl⟩
  | view =>
      obtain ⟨k, hk, h⟩ := exists_of_bind_eq_ok h
      cases h
      exact ⟨Declaration.yields_viewKindOf k hk, rfl⟩
  | resource =>
      obtain ⟨d, hd, h⟩ := exists_of_bind_eq_ok h
      cases h
      exact ⟨Declaration.yields_resourceOf d hd, rfl⟩
  | listener =>
      obtain ⟨d, hd, h⟩ := exists_of_bind_eq_ok h
      cases h
      exact ⟨Declaration.yields_listenerOf d hd, rfl⟩
  | markedClass =>
      obtain ⟨c, hc, h⟩ := exists_of_bind_eq_ok h
      cases h
      exact ⟨Declaration.yields_classOf c hc, rfl⟩

/-- What a call declares is well declared, and of the form of the call. -/
theorem Call.wellDeclared_of_declaration? {c : Call} {d : Declaration}
    (h : c.declaration? = some d) : d.WellDeclared ∧ d.form = c.form := by
  unfold declaration? at h
  split at h
  · rename_i ref _
    cases hread : c.form.read c.store ref with
    | ok e =>
        rw [hread] at h
        cases h
        exact Form.wellDeclared_of_read hread
    | error cause => exact absurd h (by simp [hread, Except.toOption])
  · exact absurd h (by simp)

namespace Manifest

section
variable {m n : Manifest} {d : Declaration}

/-- A class is found in a manifest exactly if one of its classes has the name. -/
theorem class?_isSome_iff {name : TypeName} :
    (m.class? name).isSome = true ↔ name ∈ m.classes.map MarkedClass.name := by
  unfold class?
  rw [List.find?_isSome, List.mem_map]
  refine exists_congr fun c => and_congr_right fun _ => ?_
  exact beq_iff_eq

/-- What is added stands at the end of one list. -/
theorem appends_of_add (h : m.add d = .ok n) : m.Appends d.form n := by
  cases d with
  | type c => cases h; exact .type c
  | view k => cases h; exact .view k
  | resource d => cases h; exact .resource d
  | listener d => cases h; exact .listener d
  | markedClass c =>
      simp only [add] at h
      split at h
      · exact absurd h (by simp)
      · cases h
        exact .markedClass c

/-- A well declared declaration keeps the manifest well formed. -/
theorem WellFormed.add (hm : m.WellFormed) (hd : d.WellDeclared) (h : m.add d = .ok n) :
    n.WellFormed := by
  cases d with
  | type c =>
      cases h
      exact { hm with
        types := List.forall_mem_append.mpr ⟨hm.types, List.forall_mem_singleton.mpr hd⟩ }
  | view k =>
      cases h
      exact { hm with
        views := List.forall_mem_append.mpr ⟨hm.views, List.forall_mem_singleton.mpr hd⟩ }
  | resource d =>
      cases h
      exact { hm with
        resources := List.forall_mem_append.mpr ⟨hm.resources, List.forall_mem_singleton.mpr hd⟩ }
  | listener d =>
      cases h
      exact { hm with
        listeners := List.forall_mem_append.mpr ⟨hm.listeners, List.forall_mem_singleton.mpr hd⟩ }
  | markedClass c =>
      simp only [Manifest.add] at h
      split at h
      · exact absurd h (by simp)
      · rename_i hnew
        cases h
        -- The class was looked up, so its name is none of those before it.
        have hfresh : c.name ∉ m.classes.map MarkedClass.name := by
          rwa [← class?_isSome_iff]
        refine
          { hm with
            classes := List.forall_mem_append.mpr ⟨hm.classes, List.forall_mem_singleton.mpr hd⟩
            nodup_classes := ?_ }
        rw [List.map_append, List.nodup_append]
        refine ⟨hm.nodup_classes, by simp, ?_⟩
        intro name hname other hother heq
        rw [List.map_singleton, List.mem_singleton] at hother
        exact hfresh (hother ▸ heq ▸ hname)

end

/-! ### One call -/

section
variable {m n : Manifest} {c : Call}

/-- A call is answered if it declares something that the manifest takes. -/
theorem answer_eq_ok_iff :
    m.answer c = .ok n ↔ ∃ d, c.declaration? = some d ∧ m.add d = .ok n := by
  unfold answer declare Call.declaration?
  cases c.argument with
  | table ref =>
      cases hread : c.form.read c.store ref with
      | ok d => simp [hread, Except.toOption]
      | error cause => simp [hread, Except.toOption]
  | _ => simp

/-- A call that is answered adds one entry to the list of its form. -/
theorem appends_of_answer (h : m.answer c = .ok n) : m.Appends c.form n := by
  obtain ⟨d, hd, hadd⟩ := answer_eq_ok_iff.mp h
  rw [← (Call.wellDeclared_of_declaration? hd).2]
  exact appends_of_add hadd

/-- A call keeps the manifest well formed, whether it is answered or rejected. -/
theorem WellFormed.take (hm : m.WellFormed) (c : Call) : (m.take c).WellFormed := by
  unfold Manifest.take
  split
  · rename_i n hn
    obtain ⟨d, hd, hadd⟩ := answer_eq_ok_iff.mp hn
    exact hm.add (Call.wellDeclared_of_declaration? hd).1 hadd
  · exact hm

end

/-! ### Runs of calls -/

/-- The manifest before the first call is well formed. -/
theorem wellFormed_empty : WellFormed .empty where
  types := by simp [empty]
  views := by simp [empty]
  resources := by simp [empty]
  listeners := by simp [empty]
  classes := by simp [empty]
  nodup_classes := by simp [empty]

/-- A run of calls keeps the manifest well formed. -/
theorem WellFormed.foldl_take {m : Manifest} (hm : m.WellFormed) (calls : List Call) :
    (calls.foldl Manifest.take m).WellFormed := by
  induction calls generalizing m with
  | nil => exact hm
  | cons c rest ih => exact ih (hm.take c)

/-- After any calls with any arguments, the manifest is well formed. A further call leaves it
as it is, if it is rejected, and else adds one entry at the end of the list of its form. -/
theorem wellFormed_afterCalls (calls : List Call) :
    (afterCalls calls).WellFormed ∧ ∀ c,
      (∀ e, (afterCalls calls).answer c = .error e →
        afterCalls (calls ++ [c]) = afterCalls calls)
      ∧ ∀ n, (afterCalls calls).answer c = .ok n →
        afterCalls (calls ++ [c]) = n ∧ (afterCalls calls).Appends c.form n := by
  refine ⟨wellFormed_empty.foldl_take calls, fun c => ?_⟩
  have hnext : afterCalls (calls ++ [c]) = (afterCalls calls).take c := by
    rw [afterCalls, List.foldl_append]
    rfl
  constructor
  · intro e he
    rw [hnext, take, he]
  · intro n hn
    exact ⟨by rw [hnext, take, hn], appends_of_answer hn⟩

end Manifest

end BindingCompiler
