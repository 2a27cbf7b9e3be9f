import BindingCompiler.Proofs.ClassPath.DefaultMethods

/-!
# `BindingCompiler.Proofs.ClassPath.Overloads`: the methods of one name

`ClassPath.findMethods` looks for the methods of a name that can be called on a type. The setter of
a listener and the accessor of a resource are picked from them, so a method that is found twice or
not at all decides whether a kind is accepted.

* `mem_findMethods_iff`: a method is found if it is the first declaration of its signature in the
  walk to all supertypes.
* `Foremost.eq_of_get?`: a type precedes its supertypes, over cyclic declarations too.
* `isOverloadSet_findMethods`: each signature is found once, and represented by the declaration
  that is foremost. That is the one of the type itself, if it has one.
-/

set_option autoImplicit false

namespace BindingCompiler

namespace ClassPath

variable {cp : ClassPath} {t : TypeName} {s : String × List TypeName} {m : Method} {name : String}

/-- The methods are those of a name that a type has, one of each signature. -/
structure IsOverloadSet (cp : ClassPath) (t : TypeName) (name : String) (methods : List Method) :
    Prop where
  nodup : (methods.map Method.signature).Nodup
  /-- The signatures are those that the type declares under the name, or a declared supertype that
  it reaches. -/
  signatures : ∀ s, s ∈ methods.map Method.signature
    ↔ ∃ c m, cp.Above t c ∧ m ∈ c.methods ∧ m.name = name ∧ m.signature = s
  /-- A signature that the type declares itself is represented by its own first declaration. -/
  own : ∀ c, cp.get? t = some c → ∀ m ∈ methods, c.Declares m.signature →
    c.declaration? m.signature = some m
  /-- Every signature is represented by the first declaration in the foremost type. -/
  foremost : ∀ m ∈ methods, ∃ c,
    cp.Foremost t m.signature c ∧ c.declaration? m.signature = some m

/-! ### The declaration that is found -/

/-- A method is found if it is the first declaration of its signature in the walk. -/
theorem mem_findMethods_iff : m ∈ cp.findMethods t name
    ↔ m.name = name ∧ ((cp.hierarchy t).findSome? fun c => c.declaration? m.signature) = some m := by
  rw [findMethods, Method.mem_firstOfEach_iff, List.find?_flatMap]
  by_cases hname : m.name = name
  · -- What has the signature has the name, so the other names make no difference.
    have hdeclaration : ∀ c : ClassType,
        (c.methods.filter fun n => n.name == name).find? (fun n => n.signature == m.signature)
          = c.declaration? m.signature := by
      intro c
      rw [List.find?_filter, ClassType.declaration?]
      congr 1
      funext n
      by_cases hs : n.signature = m.signature
      · have hsame : n.name = name := (congrArg Prod.fst hs).trans hname
        simp [hs, hsame]
      · simp [hs]
    simp [hname, hdeclaration]
  · simp only [hname, false_and, iff_false]
    rintro ⟨-, hfound⟩
    obtain ⟨c, -, hc⟩ := List.exists_of_findSome?_eq_some hfound
    have hmem := List.mem_of_find?_eq_some hc
    exact hname (by simpa using (List.mem_filter.mp hmem).2)

/-- The type itself precedes all others that declare a signature. -/
theorem Foremost.eq_of_get? {c d : ClassType} (hd : cp.Foremost t s d) (hget : cp.get? t = some c)
    (hc : c.Declares s) : d = c := by
  by_contra hne
  have hname : c.name = t := name_of_get? hget
  have habove : cp.Above t c := ⟨hname.symm ▸ hget, hname.symm ▸ .refl⟩
  obtain ⟨p, -, hless⟩ := hd.precedes c habove hc (Ne.symm hne)
  -- No way ranks before the one without a step.
  have hstart : cp.typeAt? t [] = some c.name := by rw [hname, typeAt?]
  rcases rank_lt_iff.mp (hless [] hstart) with hshort | ⟨-, hfirst⟩
  · exact Nat.not_lt_zero _ hshort
  · exact List.not_lt_nil p hfirst

/-- A method that is found is the first declaration of its signature in the foremost type. -/
theorem exists_foremost_of_mem_findMethods (h : m ∈ cp.findMethods t name) :
    ∃ c, cp.Foremost t m.signature c ∧ c.declaration? m.signature = some m := by
  obtain ⟨c, habove, hm, hprecedes⟩ :=
    findSome?_hierarchy_eq_some_iff.mp (mem_findMethods_iff.mp h).2
  have hdeclares : c.Declares m.signature := ClassType.declaration?_isSome_iff.mp (by rw [hm]; rfl)
  refine ⟨c, ⟨habove, hdeclares, fun d hd hdeclared => hprecedes d hd ?_⟩, hm⟩
  exact fun hnone => ClassType.declaration?_eq_none_iff.mp hnone hdeclared

/-! ### All that are found -/

/-- A lookup by name finds the overloads of the name, over declarations that are cyclic and
supertypes that are not declared. -/
theorem isOverloadSet_findMethods (cp : ClassPath) (t : TypeName) (name : String) :
    cp.IsOverloadSet t name (cp.findMethods t name) where
  nodup := Method.nodup_firstOfEach _ _
  signatures s := by
    rw [List.mem_map]
    constructor
    · rintro ⟨m, hm, hs⟩
      obtain ⟨⟨c, hget, hreach, hmem⟩, hname⟩ := hasMethod_of_mem_findMethods hm
      exact ⟨c, m, ⟨hget, hreach⟩, hmem, hname, hs⟩
    · rintro ⟨c, m, ⟨hget, hreach⟩, hmem, hname, rfl⟩
      exact exists_mem_findMethods ⟨c, hget, hreach, hmem⟩ hname
  own c hget m hm hdeclares := by
    obtain ⟨d, hforemost, hd⟩ := exists_foremost_of_mem_findMethods hm
    obtain rfl := hforemost.eq_of_get? hget hdeclares
    exact hd
  foremost _ := exists_foremost_of_mem_findMethods

end ClassPath

namespace TurnDial

/-- A method that turns something by an amount of that type. -/
def turn (amount returns : TypeName) : Method := { name := "turn", parameters := [amount], returns }

/-- A class that extends its own subclass, with two methods of one name. -/
def knob : ClassType :=
  { ClassType.plain ⟨"com.example.Knob"⟩ with
    parent? := some ⟨"com.example.Dial"⟩
    methods := [turn .int .void, turn .float .void] }

/-- Its subclass, which declares one of the two twice. -/
def dial : ClassType :=
  { ClassType.plain ⟨"com.example.Dial"⟩ with
    parent? := some knob.name
    methods := [turn .int .boolean, { name := "reset", parameters := [], returns := .void },
      turn .int .int] }

/-- The two classes. -/
def classPath : ClassPath := ClassPath.empty.insertAll [knob, dial]

/-- From the subclass there is one method of each signature: its own first one, and the one that it
inherits, though the walk comes back to where it started. -/
theorem isOverloadSet_findMethods_dial :
    Relation.TransGen classPath.Extends dial.name dial.name
      ∧ (∀ m ∈ classPath.findMethods dial.name "turn", m.parameters = [.int] →
        m = turn .int .boolean)
      ∧ ("turn", [TypeName.float])
        ∈ (classPath.findMethods dial.name "turn").map Method.signature
      ∧ ("turn", [TypeName.boolean])
        ∉ (classPath.findMethods dial.name "turn").map Method.signature := by
  have h := classPath.isOverloadSet_findMethods dial.name "turn"
  have hdial : classPath.get? dial.name = some dial := by decide
  have hknob : classPath.get? knob.name = some knob := by decide
  have hup : classPath.Extends dial.name knob.name := ⟨dial, hdial, by decide⟩
  have hround : classPath.Extends knob.name dial.name := ⟨knob, hknob, by decide⟩
  refine ⟨.tail (.single hup) hround, fun m hm hparameters => ?_, ?_, fun hmem => ?_⟩
  · have hname : m.name = "turn" := (ClassPath.hasMethod_of_mem_findMethods hm).2
    have hsignature : m.signature = ("turn", [.int]) := by rw [Method.signature, hname, hparameters]
    have hown := h.own dial hdial m hm (hsignature ▸ by decide)
    rw [hsignature, show dial.declaration? ("turn", [.int]) = some (turn .int .boolean) by decide]
      at hown
    exact (Option.some.inj hown).symm
  · exact (h.signatures _).mpr
      ⟨knob, turn .float .void, ⟨hknob, .single hup⟩, by decide, rfl, rfl⟩
  · obtain ⟨c, m, ⟨hget, -⟩, hm, -, hsignature⟩ := (h.signatures _).mp hmem
    have hnone : ∀ c ∈ classPath.classes.entries, ∀ m ∈ c.methods,
        m.signature ≠ ("turn", [.boolean]) := by decide
    exact hnone c (ClassPath.get?_eq_some_iff.mp hget).1 m hm hsignature

end TurnDial

end BindingCompiler
