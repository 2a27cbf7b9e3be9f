import BindingCompiler.Declaration.Basic
import BindingCompiler.Proofs.Registry.Resolution

/-!
# `BindingCompiler.Proofs.Declaration.Readings`: what a reading yields

A declaration is read out of tables that may hold anything: keys can be missing, values can
be of another type, and keys can contradict each other. What comes out of a reading that
succeeds has a shape all the same. `Yields x P` says that a reading gives nothing but what
satisfies `P`; the combinators of the reader hand such a statement on, from the items of a
list to the list and from a field to the part that it belongs to.

* `yields_typeOf`: a declared type is `WellDeclared`. Whatever the flags of its table say,
  an interface is abstract, without a parent and without a constructor.
* `yields_viewKindOf`, `yields_resourceOf`, `yields_listenerOf`: a declared kind has a
  name that is neither empty nor surrounded by blanks, and a resource kind has variants.
* `yields_classOf`: a class has the name that a type name was read into, and its markers
  are of kinds of such names.
-/

set_option autoImplicit false

namespace BindingCompiler

/-- The name was read from a text. -/
def TypeName.IsRead (t : TypeName) : Prop := ∃ s, TypeName.parse s = .ok t

/-- The name of the kind is not empty and has no blanks at its ends. -/
def Kind.IsTrimmed (k : Kind) : Prop := k.name ≠ "" ∧ Text.trimmed k.name = k.name

/-- The parts of a type agree with each other. -/
structure ClassType.WellDeclared (c : ClassType) : Prop where
  not_primitive : c.name.isPrimitive = false
  not_array : c.name.isArray = false
  interface : c.isInterface = true →
    c.isAbstract = true ∧ c.parent? = none ∧ c.hasDefaultConstructor = false
  /-- Only the root class is declared without a parent. -/
  parent : c.isInterface = false → c.parent? = none → c.name = .object

/-- A class is named by a type name, and its markers are of named kinds. -/
structure MarkedClass.WellDeclared (c : MarkedClass) : Prop where
  name_isRead : c.name.IsRead
  kinds : ∀ m ∈ c.members, ∀ marker ∈ m.markers, marker.kind.IsTrimmed

namespace Declaration

open Script

/-- A reading gives nothing but what has the property. -/
def Yields {α : Type} (x : Reading α) (P : α → Prop) : Prop := ∀ a, x = .ok a → P a

section
variable {α β : Type} {P : α → Prop} {Q : β → Prop}

/-- What is made of the result of a reading has the property that is made of the result's. -/
theorem Yields.bind {x : Reading α} {f : α → Reading β} (hx : Yields x P)
    (hf : ∀ a, P a → Yields (f a) Q) : Yields (x >>= f) Q := by
  intro b hb
  obtain ⟨a, ha, hfa⟩ := exists_of_bind_eq_ok hb
  exact hf a (hx a ha) b hfa

/-- A reading that only goes on keeps the property of what it goes on to. -/
theorem Yields.next {x : Reading α} {f : α → Reading β} (hf : ∀ a, Yields (f a) Q) :
    Yields (x >>= f) Q := by
  intro b hb
  obtain ⟨a, -, hfa⟩ := exists_of_bind_eq_ok hb
  exact hf a b hfa

/-- A reading that gives a value yields what the value satisfies. -/
theorem yields_pure {a : α} (h : P a) : Yields (pure a : Reading α) P := by
  intro b hb
  cases hb
  exact h

/-- A reading that fails yields anything. -/
theorem yields_throw {e : ReadError} {f : α → Reading β} : Yields (throw e >>= f) Q := by
  intro b hb
  exact absurd hb (by simp [throw, throwThe, MonadExceptOf.throw, bind, Except.bind])

/-- Each item of a list is read on its own. -/
theorem yields_mapM {γ : Type} {f : γ → Reading α} (l : List γ) (h : ∀ v ∈ l, Yields (f v) P) :
    Yields (l.mapM f) fun as => ∀ a ∈ as, P a := by
  induction l with
  | nil => exact yields_pure (by simp)
  | cons v rest ih =>
      rw [List.mapM_cons]
      refine Yields.bind (h v List.mem_cons_self) fun a ha => ?_
      refine Yields.bind (ih fun w hw => h w (List.mem_cons_of_mem _ hw)) fun as has => ?_
      exact yields_pure (List.forall_mem_cons.mpr ⟨ha, has⟩)

/-! ### Fields -/

variable {s : Store} {ref : TableRef} {part : Part} {key : String} {read : Value → Reading α}

/-- A field that may be missing is read as its value. -/
theorem yields_field? (h : ∀ v, Yields (read v) P) :
    Yields (field? s ref part key read) fun o => ∀ a, o = some a → P a := by
  intro o ho a ha
  subst ha
  unfold field? at ho
  split at ho
  · exact absurd ho (by simp)
  · rename_i v hv
    split at ho
    · rename_i hread
      cases ho
      exact h _ a hread
    · exact absurd ho (by simp)

/-- A field yields what its value yields. -/
theorem yields_field (h : ∀ v, Yields (read v) P) : Yields (field s ref part key read) P := by
  refine Yields.bind (yields_field? h) fun o ho => ?_
  cases o with
  | none => exact fun a ha => absurd ha (by simp [throw, throwThe, MonadExceptOf.throw])
  | some a => exact yields_pure (ho a rfl)

/-- A list under a key is read item by item; a missing one has no items. -/
theorem yields_listField {item : Shape} (h : ∀ v, Yields (read v) P) :
    Yields (listField s ref part key item read) fun as => ∀ a ∈ as, P a := by
  have hlist : ∀ v, Yields (list s item read v) fun as => ∀ a ∈ as, P a :=
    fun v => Yields.next fun ref => yields_mapM _ fun w _ => h w
  refine Yields.bind (yields_field? hlist) fun o ho => yields_pure ?_
  cases o with
  | none => simp
  | some as => exact ho as rfl

end

/-! ### Scalars -/

/-- A type name is what a text is read into. -/
theorem yields_typeName (v : Value) : Yields (typeName v) TypeName.IsRead := by
  intro t ht
  unfold typeName at ht
  split at ht
  · obtain ⟨text, -, ht⟩ := exists_of_bind_eq_ok ht
    split at ht
    · rename_i parsed hparsed
      cases ht
      exact ⟨text, hparsed⟩
    · exact absurd ht (by simp [throw, throwThe, MonadExceptOf.throw])
  · exact absurd ht (by simp)

/-- The name of a kind is trimmed when it is read, and what is empty then is refused. -/
theorem yields_kind (v : Value) : Yields (kind v) Kind.IsTrimmed := by
  unfold kind
  split
  · refine Yields.next fun text => ?_
    dsimp only
    split
    · exact yields_throw
    · rename_i hname
      refine yields_pure ⟨fun hempty => hname (by simpa using hempty), ?_⟩
      show String.ofList (Text.trim (String.ofList (Text.trim text.toList)).toList) = _
      rw [String.toList_ofList, Text.trim_trim]
      rfl
  · exact fun k hk => absurd hk (by simp)

/-! ### Declarations -/

section
variable {s : Store} {ref : TableRef}

/-- A parent is only given to a type that is no interface. -/
theorem yields_parentOf (c : ClassType) :
    Yields (parentOf s ref c) fun d =>
      d = c ∨ c.isInterface = false ∧ ∃ parent, d = { c with parent? := some parent } := by
  refine Yields.next fun parent? => ?_
  split
  · exact yields_pure (.inl rfl)
  · rename_i parent
    split
    · exact yields_throw
    · rename_i hinterface
      exact yields_pure (.inr ⟨by simpa using hinterface, parent, rfl⟩)

/-- A type is well declared, whatever its table says. -/
theorem yields_typeOf : Yields (typeOf s ref) ClassType.WellDeclared := by
  unfold typeOf
  refine Yields.next fun name => ?_
  dsimp only
  split
  · exact yields_throw
  rename_i hclass
  simp only [Bool.or_eq_true, not_or, Bool.not_eq_true] at hclass
  refine Yields.next fun isInterface => Yields.bind (yields_parentOf _) fun base hbase => ?_
  refine Yields.next fun interfaces => Yields.next fun isPublic => Yields.next fun isAbstract => ?_
  refine Yields.next fun hasConstructor => Yields.next fun methods => yields_pure ?_
  -- The two beginnings of a declaration, and what a parent can change in them.
  cases isInterface with
  | true =>
      obtain rfl | ⟨hno, -⟩ := hbase
      · exact
          { not_primitive := hclass.1
            not_array := hclass.2
            interface := fun _ => ⟨by simp, rfl, by simp⟩
            parent := fun h => absurd h (by simp [ClassType.interface]) }
      · exact absurd hno (by simp [ClassType.interface])
  | false =>
      have hplain : (ClassType.plain name).parent? = none → name = .object := by
        intro hnone
        refine Decidable.byContradiction fun hne => ?_
        simp [ClassType.plain, hne] at hnone
      obtain rfl | ⟨-, parent, rfl⟩ := hbase
      · exact
          { not_primitive := hclass.1
            not_array := hclass.2
            interface := fun h => absurd h (by simp [ClassType.plain])
            parent := fun _ hnone => hplain hnone }
      · exact
          { not_primitive := hclass.1
            not_array := hclass.2
            interface := fun h => absurd h (by simp [ClassType.plain])
            parent := fun _ hnone => absurd hnone (by simp) }

/-- The kind of a view has a name without blanks around it. -/
theorem yields_viewKindOf : Yields (viewKindOf s ref) Kind.IsTrimmed := by
  intro k hk
  unfold viewKindOf at hk
  split at hk
  · exact absurd hk (by simp)
  · exact yields_kind _ k hk

/-- A resource kind has a trimmed name and a variant. -/
theorem yields_resourceOf :
    Yields (resourceOf s ref) fun d => d.kind.IsTrimmed ∧ d.variants ≠ [] := by
  refine Yields.bind (yields_field yields_kind) fun k hk => Yields.next fun variants => ?_
  split
  · exact yields_throw
  · rename_i hvariants
    exact yields_pure ⟨hk, by simpa using hvariants⟩

/-- So has the kind of a listener. -/
theorem yields_listenerOf : Yields (listenerOf s ref) fun d => d.kind.IsTrimmed := by
  refine Yields.bind (yields_field yields_kind) fun k hk => ?_
  -- The spec is read after the name, and the name stays.
  refine Yields.next fun owner => Yields.next fun listener => Yields.next fun setter => ?_
  exact Yields.next fun unsetter? => Yields.next fun callback? => yields_pure hk

/-- So have the kinds of markers. -/
theorem yields_markersOf :
    Yields (markersOf s ref) fun markers => ∀ marker ∈ markers, marker.kind.IsTrimmed := by
  refine yields_listField fun v => Yields.next fun inner => ?_
  refine Yields.bind (yields_field yields_kind) fun k hk => ?_
  exact Yields.next fun ids => Yields.next fun isOptional => yields_pure hk

/-- A class is named by a type name, and the markers of its fields and methods are of named
kinds. -/
theorem yields_classOf : Yields (classOf s ref) MarkedClass.WellDeclared := by
  have hfield : ∀ r, Yields (markedField s r) fun m => ∀ marker ∈ m.markers, marker.kind.IsTrimmed :=
    fun r => Yields.next fun member => Yields.bind yields_markersOf fun markers h => yields_pure h
  have hmethod : ∀ r, Yields (markedMethod s r) fun m =>
      ∀ marker ∈ m.markers, marker.kind.IsTrimmed :=
    fun r => Yields.next fun member => Yields.bind yields_markersOf fun markers h => yields_pure h
  refine Yields.bind (yields_field yields_typeName) fun name hname => ?_
  refine Yields.next fun fieldRefs => ?_
  refine Yields.bind (yields_mapM fieldRefs fun r _ => hfield r) fun fields hfields => ?_
  refine Yields.next fun methodRefs => ?_
  refine Yields.bind (yields_mapM methodRefs fun r _ => hmethod r) fun methods hmethods => ?_
  refine yields_pure ⟨hname, fun m hm => ?_⟩
  exact (List.mem_append.mp hm).elim (hfields m) (hmethods m)

end

end Declaration

end BindingCompiler
