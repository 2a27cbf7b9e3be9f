import BindingCompiler.Proofs.Declaration.Order
import BindingCompiler.Proofs.Plan.ClassNames
import BindingCompiler.Source.Render
import Mathlib.Data.List.Forall2

/-!
# `BindingCompiler.Proofs.Source.Factory`: one binding for each target

The factory enters the binding of every plan in a map, under the class of its target. The class
is written as it reads in source, where a dollar has become a dot, so two targets can be entered
under one key (`sourceName_eq_iff`), and then the later one replaces the earlier one. That a
class is declared only once does not exclude it, for there the names are compared as they are.

`nodup_bindingKeys_iff` says when it happens, for the plans of all classes that calls declare.
-/

set_option autoImplicit false

namespace BindingCompiler

namespace TypeName

/-- The names differ at most by dots in the place of dollars. -/
def ReadsLike (t u : TypeName) : Prop :=
  List.Forall₂ (fun a b => a = b ∨ a ∈ ['.', '$'] ∧ b ∈ ['.', '$']) t.text.toList u.text.toList

/-- Two names are written in the same way in source if they differ only by dots and dollars. -/
theorem sourceName_eq_iff {t u : TypeName} : t.sourceName = u.sourceName ↔ t.ReadsLike u := by
  have hchar : ∀ a b : Char, (if a = '$' then '.' else a) = (if b = '$' then '.' else b)
      ↔ a = b ∨ a ∈ ['.', '$'] ∧ b ∈ ['.', '$'] := by
    intro a b
    grind
  rw [sourceName, sourceName, String.ofList_inj, ← List.forall₂_eq_eq_eq, List.forall₂_map_left_iff,
    List.forall₂_map_right_iff, ReadsLike]
  simp only [hchar]

end TypeName

namespace Source

open Layout

/-! ### The entries -/

/-- The class of a target, as the factory writes it. -/
def bindingKey (target : TypeName) : String := target.sourceName ++ ".class"

/-- The statement that enters the binding of a plan, as it reads. -/
def entryText (p : Plan) : String :=
  "BINDINGS.put(" ++ bindingKey p.target ++ ", new " ++ p.binding.text ++ "());"

/-- The line of that statement. -/
def entryLine (p : Plan) : String := indent 2 ++ entryText p

/-- What such a line begins with. -/
def entryOpening : String := "    BINDINGS.put("

/-- Whether a line enters a binding. -/
def isEntry (line : String) : Bool := entryOpening.toList.isPrefixOf line.toList

/-- The lines of the factory. -/
def factoryLines (plans : List Plan) : List String := lines 0 (factoryCalls plans)

/-- Only the entries depend on the plans. They stand inside of two blocks. -/
theorem exists_factoryCalls : ∃ before after, depthAfter 0 before = 2 ∧ ∀ plans,
    factoryCalls plans
      = before ++ ((plans.flatMap fun p => (enterBinding p).layout) ++ after) := by
  refine ⟨(factoryCalls []).take 7, (factoryCalls []).drop 7, by decide +kernel, fun plans => ?_⟩
  rw [factoryCalls, factoryClassCalls]
  simp only [List.append_assoc]
  rfl

/-- The statement that enters a binding is written on one line. -/
theorem layout_enterBinding (p : Plan) : (enterBinding p).layout = [.line (entryText p)] := by
  -- The statement is put together from more pieces than its text is written with.
  have hopening : "BINDINGS" ++ "." ++ "put" ++ "(" = "BINDINGS.put(" := by decide
  have hnew : ", " ++ "new " = ", new " := by decide
  have hclosing : "(" ++ "" ++ ")" ++ ")" ++ ";" = "());" := by decide
  have htext : ∀ key binding : String,
      "BINDINGS" ++ "." ++ "put" ++ "(" ++ (key ++ ", " ++ ("new " ++ binding ++ "(" ++ "" ++ ")"))
          ++ ")" ++ ";" = "BINDINGS.put(" ++ key ++ ", new " ++ binding ++ "());" := by
    intro key binding
    rw [hopening, ← hnew, ← hclosing]
    simp only [String.append_assoc]
  exact congrArg (fun text => [Item.line text]) (htext _ _)

/-- The statements are written on one line each. -/
theorem layout_entries (plans : List Plan) :
    (plans.flatMap fun p => (enterBinding p).layout) = (plans.map entryText).map .line := by
  rw [List.map_map]
  simp only [layout_enterBinding]
  exact List.flatMap_pure_eq_map ..

/-- Inside of two blocks this line is the entry of the plan. -/
theorem text_entryText (p : Plan) : (Item.line (entryText p)).text 2 = entryLine p := by
  have hne : ¬ (entryText p).isEmpty = true := by
    unfold entryText
    simp only [String.isEmpty_iff, String.append_eq_empty_iff]
    exact fun hempty => absurd hempty.1.1.1.1 (by decide)
  rw [Item.text, if_neg hne, entryLine]

/-- Entries begin as entries do. -/
theorem isEntry_entryLine (p : Plan) : isEntry (entryLine p) = true := by
  have hopening : entryOpening = indent 2 ++ "BINDINGS.put(" := by decide
  rw [isEntry, List.isPrefixOf_iff_prefix, hopening, entryLine]
  unfold entryText
  simp only [String.toList_append, List.append_assoc]
  rw [← List.append_assoc]
  exact List.prefix_append _ _

/-- The lines that enter a binding are those of the plans, in their order. -/
theorem filter_factoryLines (plans : List Plan) :
    (factoryLines plans).filter isEntry = plans.map entryLine := by
  obtain ⟨before, after, hdepth, hcalls⟩ := exists_factoryCalls
  have hlines : ∀ plans, factoryLines plans
      = lines 0 before ++ (plans.map entryLine ++ lines 2 after) := by
    intro plans
    rw [factoryLines, hcalls, lines_append, hdepth, layout_entries, lines_map_line_append,
      List.map_map]
    simp only [Function.comp_def, text_entryText]
  -- Without plans there are no entries, so none of the other lines is one.
  have hothers : (factoryLines []).filter isEntry = [] := by decide +kernel
  rw [hlines, List.map_nil, List.nil_append, List.filter_append, List.append_eq_nil_iff] at hothers
  have hall : (plans.map entryLine).filter isEntry = plans.map entryLine := by
    rw [List.filter_eq_self]
    intro line hline
    obtain ⟨p, -, rfl⟩ := List.mem_map.mp hline
    exact isEntry_entryLine p
  rw [hlines, List.filter_append, List.filter_append, hothers.1, hall, hothers.2,
    List.nil_append, List.append_nil]

/-! ### What the map holds -/

/-- The binding that stands under a key when the plans are entered in turn: a later entry takes
the place of an earlier one. -/
def entered? (plans : List Plan) (key : String) : Option TypeName :=
  plans.foldl (fun found p => if bindingKey p.target = key then some p.binding else found) none

/-- What is entered last takes the place of what was there. -/
theorem entered?_concat (plans : List Plan) (p : Plan) (key : String) :
    entered? (plans ++ [p]) key
      = if bindingKey p.target = key then some p.binding else entered? plans key := by
  rw [entered?, List.foldl_append]
  rfl

/-- Under distinct keys every binding stays. -/
theorem entered?_of_nodup {plans : List Plan} {p : Plan}
    (h : ((plans.map Plan.target).map bindingKey).Nodup) (hp : p ∈ plans) :
    entered? plans (bindingKey p.target) = some p.binding := by
  induction plans using List.reverseRecOn with
  | nil => exact absurd hp (by simp)
  | append_singleton plans last ih =>
      rw [List.map_append, List.map_append, List.nodup_append] at h
      obtain ⟨hbefore, -, hlast⟩ := h
      rw [entered?_concat]
      rcases List.mem_append.mp hp with hp | hp
      · have hne : bindingKey p.target ≠ bindingKey last.target :=
          hlast _ (List.mem_map_of_mem (List.mem_map_of_mem hp)) _ (List.mem_singleton_self _)
        rw [if_neg hne.symm]
        exact ih hbefore hp
      · rw [List.mem_singleton.mp hp, if_pos rfl]

/-- If every binding stays, and no two are the same, the keys are distinct. -/
theorem nodup_of_entered? {plans : List Plan} (hbindings : (plans.map Plan.binding).Nodup)
    (h : ∀ p ∈ plans, entered? plans (bindingKey p.target) = some p.binding) :
    ((plans.map Plan.target).map bindingKey).Nodup := by
  rw [List.map_map]
  refine List.Nodup.map_on (fun p hp q hq heq => ?_) hbindings.of_map
  have hkey : bindingKey p.target = bindingKey q.target := heq
  have hsame := (h p hp).symm.trans (hkey ▸ h q hq)
  exact List.inj_on_of_nodup_map hbindings hp hq (Option.some.inj hsame)

/-- Two targets have one key if their names differ only by dots and dollars. -/
theorem bindingKey_eq_iff {t u : TypeName} : bindingKey t = bindingKey u ↔ t.ReadsLike u := by
  rw [← TypeName.sourceName_eq_iff, bindingKey, bindingKey, ← String.toList_inj,
    String.toList_append, String.toList_append, List.append_cancel_right_eq, String.toList_inj]

/-- The factory has one line for each plan, in order, that enters its binding. If the plans are
those of all classes that calls declare, their keys are distinct exactly if no two of the classes
read alike in source, and exactly then every target keeps its own binding. -/
theorem nodup_bindingKeys_iff {r : Registry} (calls : List Call) {plans : List Plan}
    (h : List.Forall₂ (fun c p => Plan.build r c = .ok p) (Manifest.afterCalls calls).classes
      plans) :
    renderFactory plans = String.join ((factoryLines plans).map fun line => line ++ "\n")
      ∧ (factoryLines plans).filter isEntry = plans.map entryLine
      ∧ (((plans.map Plan.target).map bindingKey).Nodup ↔
        (Manifest.afterCalls calls).classes.Pairwise fun c d => ¬ c.name.ReadsLike d.name)
      ∧ (((plans.map Plan.target).map bindingKey).Nodup ↔
        ∀ p ∈ plans, entered? plans (bindingKey p.target) = some p.binding) := by
  obtain ⟨htargets, hbindings⟩ := Plan.targets_eq_of_builds h
  refine ⟨Writer.finish_writeAll _, filter_factoryLines plans, ?_,
    fun hnodup p hp => entered?_of_nodup hnodup hp, ?_⟩
  · rw [htargets, List.Nodup, List.pairwise_map, List.pairwise_map]
    simp only [ne_eq, bindingKey_eq_iff]
  · -- The bindings are distinct, because no class is declared twice.
    refine nodup_of_entered? ?_
    have hnames := (Manifest.wellFormed_afterCalls calls).1.nodup_classes
    rw [hbindings]
    exact hnames.map fun t u heq => TypeName.bindingType_injective heq

end Source

namespace DottedRow

open Source Script

/-- A class inside another one. -/
def nested : MarkedClass := { name := ⟨"com.example.Sample$Row"⟩ }

/-- A class of the package that is named like the outer class. -/
def dotted : MarkedClass := { name := ⟨"com.example.Sample.Row"⟩ }

/-- A class beside the outer one. -/
def other : MarkedClass := { name := ⟨"com.example.Row"⟩ }

/-- The call that declares a class without members. -/
def declares (c : MarkedClass) : Call :=
  ⟨⟨#[[(.ofText "name", .ofText c.name.text)]]⟩, .markedClass, .table ⟨0⟩⟩

/-- Both classes can be declared and both have plans, but in the factory they have the same key,
under which the binding of the second replaces that of the first. -/
theorem not_nodup_bindingKeys_nested :
    Manifest.declareAll [declares nested, declares dotted]
        = .ok (Manifest.afterCalls [declares nested, declares dotted])
      ∧ ∃ p q, List.Forall₂ (fun c p => Plan.build (Registry.ofClassPath .empty) c = .ok p)
          (Manifest.afterCalls [declares nested, declares dotted]).classes [p, q]
        ∧ bindingKey p.target = "com.example.Sample.Row.class"
        ∧ ¬ (([p, q].map Plan.target).map bindingKey).Nodup
        ∧ entered? [p, q] (bindingKey p.target) = some q.binding ∧ q.binding ≠ p.binding := by
  have hclasses : (Manifest.afterCalls [declares nested, declares dotted]).classes
      = [nested, dotted] := by decide +kernel
  refine ⟨by decide +kernel, .empty nested.name, .empty dotted.name, ?_, by decide, by decide,
    by decide, by decide⟩
  rw [hclasses]
  exact .cons rfl (.cons rfl .nil)

/-- Classes that do not read alike keep their bindings. -/
theorem nodup_bindingKeys_other : ∃ p q,
    List.Forall₂ (fun c p => Plan.build (Registry.ofClassPath .empty) c = .ok p)
        (Manifest.afterCalls [declares nested, declares other]).classes [p, q]
      ∧ (([p, q].map Plan.target).map bindingKey).Nodup
      ∧ entered? [p, q] "com.example.Sample.Row.class" = some p.binding
      ∧ entered? [p, q] "com.example.Row.class" = some q.binding := by
  have hclasses : (Manifest.afterCalls [declares nested, declares other]).classes
      = [nested, other] := by decide +kernel
  have hplans : List.Forall₂ (fun c p => Plan.build (Registry.ofClassPath .empty) c = .ok p)
      (Manifest.afterCalls [declares nested, declares other]).classes
      [.empty nested.name, .empty other.name] := by
    rw [hclasses]
    exact .cons rfl (.cons rfl .nil)
  obtain ⟨-, -, hreads, hkeeps⟩ := nodup_bindingKeys_iff _ hplans
  have hapart := hreads.mpr <| by
    rw [hclasses]
    refine List.pairwise_pair.mpr fun halike => ?_
    exact absurd (TypeName.sourceName_eq_iff.mpr halike) (by decide)
  have hall := hkeeps.mp hapart
  have hnested : bindingKey nested.name = "com.example.Sample.Row.class" := by decide
  have hother : bindingKey other.name = "com.example.Row.class" := by decide
  refine ⟨_, _, hplans, hapart, ?_, ?_⟩
  · rw [← hnested]
    exact hall (.empty nested.name) List.mem_cons_self
  · rw [← hother]
    exact hall (.empty other.name) (List.mem_cons_of_mem _ List.mem_cons_self)

end DottedRow

end BindingCompiler
