import BindingCompiler.Manifest.Codec
import BindingCompiler.Proofs.TypeName.Canonical

/-!
# `BindingCompiler.Proofs.Manifest.Codec`: manifests that are written and read

A manifest is read back as it was written. This is shown part by part: `Codes` says of a writer
and a reader that they belong together, and a structure has it from its fields, a list from its
items. Two things make the forms of a part differ.

* Names of types are checked and brought to their canonical form as they are read. So a part is
  read back if its names were read before (`AllRead`), and whatever is read has only such names.
* Fields can be missing, and a structure can be a list of its fields. All this is written as one
  form, which is why reading and writing do not have to give the same JSON, but do from the
  second time on.

`ofJson?_toJson` puts this together for a whole manifest.
-/

set_option autoImplicit false

namespace BindingCompiler

/-! ### Names -/

namespace TypeName

/-- All names were read. -/
def AllRead (names : List TypeName) : Prop := ∀ t ∈ names, t.IsRead

/-- No names are all read. -/
@[simp] theorem allRead_nil : AllRead [] := List.forall_mem_nil _

/-- The first name is read, and so are the others. -/
@[simp] theorem allRead_cons {t : TypeName} {rest : List TypeName} :
    AllRead (t :: rest) ↔ t.IsRead ∧ AllRead rest := List.forall_mem_cons

/-- The names of two lists are read if those of each list are. -/
@[simp] theorem allRead_append {names more : List TypeName} :
    AllRead (names ++ more) ↔ AllRead names ∧ AllRead more := List.forall_mem_append

/-- The names in the entries of a list are read if those of every entry are. -/
@[simp] theorem allRead_flatMap {α : Type} {names : α → List TypeName} {l : List α} :
    AllRead (l.flatMap names) ↔ ∀ a ∈ l, AllRead (names a) := by
  simp only [AllRead, List.mem_flatMap, forall_exists_index, and_imp]
  exact forall_comm.trans (forall_congr' fun a => forall_comm)

end TypeName

/-! ### Names of the parts -/

/-- The types that a method names. -/
def Method.typeNames (m : Method) : List TypeName := m.returns :: m.parameters

/-- The types that a class names, itself among them. -/
def ClassType.typeNames (c : ClassType) : List TypeName :=
  c.name :: c.supertypes ++ c.methods.flatMap Method.typeNames

/-- The type that a resource variant names. -/
def ResourceSpec.typeNames (s : ResourceSpec) : List TypeName := [s.valueType]

/-- The types that a listener spec names. -/
def ListenerSpec.typeNames (s : ListenerSpec) : List TypeName := [s.owner, s.listener]

/-- The types that a member names. -/
def Member.typeNames : Member → List TypeName
  | .field f => [f.type]
  | .method m => m.typeNames

/-- The types that a marked class names, itself among them. -/
def MarkedClass.typeNames (c : MarkedClass) : List TypeName :=
  c.name :: c.members.flatMap fun m => m.member.typeNames

/-- The types that a manifest names. -/
def Manifest.typeNames (m : Manifest) : List TypeName :=
  m.types.flatMap ClassType.typeNames
    ++ m.resources.flatMap (fun d => d.variants.flatMap ResourceSpec.typeNames)
    ++ m.listeners.flatMap (fun d => d.spec.typeNames)
    ++ m.classes.flatMap MarkedClass.typeNames

namespace Json

/-- A writer and a reader that belong together: the values with the property are read back as
they were written, and only such values are read. -/
structure Codes {α : Type} (write : α → Json) (read : Json → Option α) (P : α → Prop) : Prop where
  read_write : ∀ a, P a → read (write a) = some a
  of_read : ∀ j a, read j = some a → P a

/-- A word in front of an object does not hide its other members. -/
theorem part?_tagged {tag key : String} (h : tag ≠ key) (value : String)
    (members : List (String × Json)) (position : Nat) :
    ((object members).tagged tag value).part? position key
      = (object members).part? position key :=
  if_neg h

/-! ### Scalars and lists -/

/-- A string is read back, and every string can be read. -/
theorem codes_string : Codes .string asString? fun _ => True where
  read_write _ _ := rfl
  of_read _ _ _ := trivial

/-- So can every truth value. -/
theorem codes_bool : Codes .bool asBool? fun _ => True where
  read_write _ _ := rfl
  of_read _ _ _ := trivial

section
variable {α : Type} {write : α → Json} {read : Json → Option α} {P : α → Prop}

/-- Lists are written and read item by item. -/
theorem Codes.ofList (h : Codes write read P) :
    Codes (ofList write) (asList? read) fun l => ∀ a ∈ l, P a where
  read_write := by
    intro l hl
    show (l.map write).mapM read = some l
    induction l with
    | nil => rfl
    | cons a rest ih =>
        obtain ⟨ha, hrest⟩ := List.forall_mem_cons.mp hl
        rw [List.map_cons, List.mapM_cons, h.read_write a ha, ih hrest]
        rfl
  of_read := by
    intro j l hj
    cases j with
    | array items =>
        have hitems : items.mapM read = some l := hj
        clear hj
        induction items generalizing l with
        | nil =>
            cases hitems
            exact List.forall_mem_nil _
        | cons item rest ih =>
            rw [List.mapM_cons] at hitems
            obtain ⟨a, ha, hitems⟩ := Option.bind_eq_some_iff.mp hitems
            obtain ⟨as, has, hitems⟩ := Option.bind_eq_some_iff.mp hitems
            cases hitems
            exact List.forall_mem_cons.mpr ⟨h.of_read item a ha, ih as has⟩
    | _ => exact absurd hj (by simp [asList?])

/-! ### Fields -/

variable {j v : Json} {position : Nat} {key : String} {a default : α}

/-- A field that has to be there has what its reader ensures. -/
theorem Codes.of_required (h : Codes write read P) (ha : j.required position key read = some a) :
    P a := by
  unfold required at ha
  split at ha
  · exact h.of_read _ a ha
  · exact absurd ha (by simp)

/-- So has a field with a default, if the default has it. -/
theorem Codes.of_defaulted (h : Codes write read P) (hdefault : P default)
    (ha : j.defaulted position key read default = some a) : P a := by
  unfold defaulted at ha
  split at ha
  · exact h.of_read _ a ha
  · cases ha
    exact hdefault

/-- A field that can be absent has it if it is there. -/
theorem Codes.of_optional (h : Codes write read P) {o : Option α}
    (ho : j.optional position key read = some o) : ∀ a ∈ o, P a := by
  intro a ha
  cases ha
  unfold optional at ho
  split at ho
  · exact absurd ho (by simp)
  · exact absurd ho (by simp)
  · obtain ⟨b, hb, heq⟩ := Option.map_eq_some_iff.mp ho
    cases heq
    exact h.of_read _ a hb

/-- A field that is written under its key is read back. -/
theorem Codes.required_write (h : Codes write read P) (ha : P a)
    (hpart : j.part? position key = some (write a)) : j.required position key read = some a := by
  rw [required_some hpart, h.read_write a ha]

/-- So is a field with a default: it is written in any case, so the default is not taken. -/
theorem Codes.defaulted_write (h : Codes write read P) (ha : P a)
    (hpart : j.part? position key = some (write a)) :
    j.defaulted position key read default = some a := by
  rw [defaulted_some hpart, h.read_write a ha]

/-- A field that can be absent is read back if it is left out when it is. -/
theorem Codes.optional_write (h : Codes write read P) (hnull : ∀ a, write a ≠ .null) {o : Option α}
    (ho : ∀ a ∈ o, P a) (hpart : j.part? position key = o.map write) :
    j.optional position key read = some o := by
  unfold optional
  rw [hpart]
  cases o with
  | none => rfl
  | some a =>
      have hread := h.read_write a (ho a rfl)
      rw [Option.map_some]
      cases hwrite : write a with
      | null => exact absurd hwrite (hnull a)
      | _ => simp only [← hwrite, hread, Option.map_some]

/-- So is one that is written as `null` then. -/
theorem Codes.optional_write_null (h : Codes write read P) (hnull : ∀ a, write a ≠ .null)
    {o : Option α} (ho : ∀ a ∈ o, P a)
    (hpart : j.part? position key = some ((o.map write).getD .null)) :
    j.optional position key read = some o := by
  cases o with
  | none =>
      unfold optional
      rw [hpart]
      rfl
  | some a => exact h.optional_write hnull ho hpart

end

end Json

open Json

/-! ### Names and words -/

/-- A type name is written as its text, and is read back if it is what the parser makes of some
text. What is read has been through the parser. -/
theorem TypeName.codes : Codes TypeName.toJson TypeName.ofJson? TypeName.IsRead where
  read_write := by
    intro t ht
    simp only [TypeName.toJson, TypeName.ofJson?, TypeName.isRead_iff_parse_text.mp ht]
  of_read := by
    intro j t h
    unfold TypeName.ofJson? at h
    split at h
    · rename_i s
      split at h
      · rename_i parsed hparsed
        cases h
        exact ⟨s, hparsed⟩
      · exact absurd h (by simp)
    · exact absurd h (by simp)

/-- A kind is written as its name, without a check of the name. -/
theorem Kind.codes : Codes Kind.toJson Kind.ofJson? fun _ => True where
  read_write _ _ := rfl
  of_read _ _ _ := trivial

/-- A visibility is written as its word, whatever else it can be read from. -/
theorem Visibility.codes (holdsNothing : Json → Bool) :
    Codes Visibility.toJson (Visibility.ofJsonWith? holdsNothing) fun _ => True where
  read_write v _ := by cases v <;> rfl
  of_read _ _ _ := trivial

/-- An id is written as a signed number, and every number of that range is the id of one word. -/
theorem ResourceId.codes : Codes ResourceId.toJson ResourceId.ofJson? fun _ => True where
  read_write := by
    intro id _
    show ResourceId.ofSigned? id.bits.toInt = some id
    have hlow := BitVec.le_toInt id.bits
    have hhigh := BitVec.toInt_lt (x := id.bits)
    rw [ResourceId.ofSigned?, if_pos (by omega), BitVec.ofInt_toInt]
  of_read _ _ _ := trivial

/-! ### Types -/

/-- A method is read from any object that has its members, whatever else is in it. -/
theorem Method.ofJsonWith?_of_parts (holdsNothing : Json → Bool) {m : Method}
    (hm : TypeName.AllRead m.typeNames) {members : List (String × Json)}
    (h : ∀ position, ∀ key ∈ ["name", "args", "returns", "is_abstract", "visibility"],
      part? (.object members) position key = m.toJson.part? position key) :
    Method.ofJsonWith? (Visibility.ofJsonWith? holdsNothing) (.object members) = some m := by
  obtain ⟨hreturns, hparameters⟩ := TypeName.allRead_cons.mp hm
  unfold Method.ofJsonWith?
  refine (Option.bind_some _ _).trans ?_
  rw [codes_string.required_write (a := m.name) trivial (h _ _ (by decide)),
    TypeName.codes.ofList.required_write hparameters (h _ _ (by decide)),
    TypeName.codes.required_write hreturns (h _ _ (by decide)),
    codes_bool.defaulted_write (a := m.isAbstract) trivial (h _ _ (by decide)),
    (Visibility.codes holdsNothing).defaulted_write (a := m.visibility) trivial
      (h _ _ (by decide))]
  rfl

/-- A method is read back whichever way a visibility can be left out, for it is written with one. -/
theorem Method.codesWith (holdsNothing : Json → Bool) :
    Codes Method.toJson (Method.ofJsonWith? (Visibility.ofJsonWith? holdsNothing))
      fun m => TypeName.AllRead m.typeNames where
  read_write _ hm := Method.ofJsonWith?_of_parts _ hm fun _ _ _ => rfl
  of_read := by
    intro j m h
    simp only [Method.ofJsonWith?, Option.bind_eq_bind, Option.bind_eq_some_iff] at h
    obtain ⟨j, -, name, -, parameters, hparameters, returns, hreturns, isAbstract, -,
      visibility, -, heq⟩ := h
    cases heq
    exact TypeName.allRead_cons.mpr
      ⟨TypeName.codes.of_required hreturns, TypeName.codes.ofList.of_required hparameters⟩

/-- So is a method on its own. -/
theorem Method.codes :
    Codes Method.toJson Method.ofJson? fun m => TypeName.AllRead m.typeNames :=
  Method.codesWith _

/-- A declared type is read back with its parent, its interfaces and its methods. The parent may be
absent, and is then written as `null`. -/
theorem ClassType.codes :
    Codes ClassType.toJson ClassType.ofJson? fun c => TypeName.AllRead c.typeNames where
  read_write := by
    intro c hc
    obtain ⟨hsupertypes, hmethods⟩ := TypeName.allRead_append.mp hc
    obtain ⟨hname, hsupertypes⟩ := TypeName.allRead_cons.mp hsupertypes
    obtain ⟨hparent, hinterfaces⟩ := TypeName.allRead_append.mp hsupertypes
    have hparent : ∀ t ∈ c.parent?, t.IsRead := fun t ht => hparent t (Option.mem_toList.mpr ht)
    have hmethods := TypeName.allRead_flatMap.mp hmethods
    unfold ClassType.ofJson?
    refine (Option.bind_some _ _).trans ?_
    rw [TypeName.codes.required_write hname rfl,
      TypeName.codes.optional_write_null (fun t => by simp [TypeName.toJson]) hparent rfl,
      TypeName.codes.ofList.defaulted_write hinterfaces rfl,
      Method.codes.ofList.defaulted_write hmethods rfl]
    -- The other fields are truth values, which are read as they stand.
    rfl
  of_read := by
    intro j c h
    simp only [ClassType.ofJson?, Option.bind_eq_bind, Option.bind_eq_some_iff] at h
    obtain ⟨j, -, name, hname, parent?, hparent, interfaces, hinterfaces, isPublic, -, isAbstract,
      -, isInterface, -, hasDefaultConstructor, -, methods, hmethods, heq⟩ := h
    cases heq
    have hparent := TypeName.codes.of_optional hparent
    have hnone : ∀ m ∈ ([] : List Method), TypeName.AllRead m.typeNames := List.forall_mem_nil _
    refine TypeName.allRead_append.mpr ⟨TypeName.allRead_cons.mpr
      ⟨TypeName.codes.of_required hname, TypeName.allRead_append.mpr ⟨?_, ?_⟩⟩, ?_⟩
    · exact fun t ht => hparent t (Option.mem_toList.mp ht)
    · exact TypeName.codes.ofList.of_defaulted (List.forall_mem_nil _) hinterfaces
    · exact TypeName.allRead_flatMap.mpr (Method.codes.ofList.of_defaulted hnone hmethods)

/-! ### Specs -/

/-- A variant of a resource kind is read back. -/
theorem ResourceSpec.codes :
    Codes ResourceSpec.toJson ResourceSpec.ofJson? fun s => TypeName.AllRead s.typeNames where
  read_write := by
    intro s hs
    obtain ⟨hvalue, -⟩ := TypeName.allRead_cons.mp hs
    unfold ResourceSpec.ofJson?
    refine (Option.bind_some _ _).trans ?_
    rw [TypeName.codes.required_write hvalue rfl]
    rfl
  of_read := by
    intro j s h
    simp only [ResourceSpec.ofJson?, Option.bind_eq_bind, Option.bind_eq_some_iff] at h
    obtain ⟨j, -, valueType, hvalue, accessor, -, heq⟩ := h
    cases heq
    exact TypeName.allRead_cons.mpr ⟨TypeName.codes.of_required hvalue, TypeName.allRead_nil⟩

/-- A listener spec is read from any object that has its members, whatever else is in it. -/
theorem ListenerSpec.ofJson?_of_parts {s : ListenerSpec} (hs : TypeName.AllRead s.typeNames)
    {members : List (String × Json)}
    (h : ∀ position, ∀ key ∈ ["owner_type", "listener_type", "setter_name", "unsetter_name",
      "callback_name"], part? (.object members) position key = s.toJson.part? position key) :
    ListenerSpec.ofJson? (.object members) = some s := by
  obtain ⟨howner, hmore⟩ := TypeName.allRead_cons.mp hs
  obtain ⟨hlistener, -⟩ := TypeName.allRead_cons.mp hmore
  -- The two names that can be absent are left out then.
  have hunsetter : s.toJson.part? 3 "unsetter_name" = s.unsetter?.map .string := by
    rcases s with ⟨owner, listener, setter, _ | unsetter, _ | callback⟩ <;> rfl
  have hcallback : s.toJson.part? 4 "callback_name" = s.callback?.map .string := by
    rcases s with ⟨owner, listener, setter, _ | unsetter, _ | callback⟩ <;> rfl
  have hnull : ∀ a : String, Json.string a ≠ .null := by simp
  unfold ListenerSpec.ofJson?
  refine (Option.bind_some _ _).trans ?_
  rw [TypeName.codes.required_write howner (h _ _ (by decide)),
    TypeName.codes.required_write hlistener (h _ _ (by decide)),
    codes_string.required_write (a := s.setter) trivial (h _ _ (by decide)),
    codes_string.optional_write hnull (fun _ _ => trivial) ((h _ _ (by decide)).trans hunsetter),
    codes_string.optional_write hnull (fun _ _ => trivial) ((h _ _ (by decide)).trans hcallback)]
  rfl

/-- A listener spec is read back. Its two optional names are left out where they are absent, and not
written as `null`. -/
theorem ListenerSpec.codes :
    Codes ListenerSpec.toJson ListenerSpec.ofJson? fun s => TypeName.AllRead s.typeNames where
  read_write _ hs := ListenerSpec.ofJson?_of_parts hs fun _ _ _ => rfl
  of_read := by
    intro j s h
    simp only [ListenerSpec.ofJson?, Option.bind_eq_bind, Option.bind_eq_some_iff] at h
    obtain ⟨j, -, owner, howner, listener, hlistener, setter, -, unsetter?, -, callback?, -, heq⟩ := h
    cases heq
    exact TypeName.allRead_cons.mpr ⟨TypeName.codes.of_required howner, TypeName.allRead_cons.mpr
      ⟨TypeName.codes.of_required hlistener, TypeName.allRead_nil⟩⟩

/-! ### Marked classes -/

/-- A field is read back with the word in front that says that it is one. -/
theorem Field.ofJson?_tagged {f : Field} (hf : f.type.IsRead) :
    Field.ofJson? (f.toJson.tagged "target" "field") = some f := by
  have hvisibility : Codes Visibility.toJson Visibility.ofMemberJson? fun _ => True :=
    Visibility.codes _
  unfold Field.ofJson?
  refine (Option.bind_some _ _).trans ?_
  rw [TypeName.codes.required_write hf rfl, hvisibility.defaulted_write trivial rfl]
  rfl

/-- The type of a field that is read has been through the parser. -/
theorem Field.isRead_of_ofJson? {j : Json} {f : Field} (h : Field.ofJson? j = some f) :
    f.type.IsRead := by
  simp only [Field.ofJson?, Option.bind_eq_bind, Option.bind_eq_some_iff] at h
  obtain ⟨j, -, name, -, type, htype, visibility, -, heq⟩ := h
  cases heq
  exact TypeName.codes.of_required htype

/-- A method is read back with the word in front that says that it is one. -/
theorem Method.ofJsonWith?_tagged {m : Method} (hm : TypeName.AllRead m.typeNames) :
    Method.ofJsonWith? Visibility.ofMemberJson? (m.toJson.tagged "target" "method") = some m := by
  refine Method.ofJsonWith?_of_parts _ hm fun position key hkey => part?_tagged ?_ _ _ _
  rintro rfl
  exact absurd hkey (by decide)

/-- A member is read back as what it is. The word in front of its parts says whether it is a field or
a method, and hides none of them. -/
theorem Member.codes :
    Codes Member.toJson Member.ofJson? fun m => TypeName.AllRead m.typeNames where
  read_write := by
    intro m hm
    cases m with
    | field f =>
        have hread := Field.ofJson?_tagged (TypeName.allRead_cons.mp hm).1
        show (Field.ofJson? (f.toJson.tagged "target" "field")).map Member.field = _
        rw [hread]
        rfl
    | method m =>
        have hread := Method.ofJsonWith?_tagged hm
        show (Method.ofJsonWith? Visibility.ofMemberJson?
          (m.toJson.tagged "target" "method")).map Member.method = _
        rw [hread]
        rfl
  of_read := by
    intro j m h
    unfold Member.ofJson? at h
    split at h
    · obtain ⟨f, hf, rfl⟩ := Option.map_eq_some_iff.mp h
      exact TypeName.allRead_cons.mpr ⟨Field.isRead_of_ofJson? hf, TypeName.allRead_nil⟩
    · obtain ⟨m, hm, rfl⟩ := Option.map_eq_some_iff.mp h
      exact (Method.codesWith _).of_read _ m hm
    · exact absurd h (by simp)

/-- A marker is read back, with any kind and any ids. -/
theorem Marker.codes : Codes Marker.toJson Marker.ofJson? fun _ => True where
  read_write := by
    intro m _
    unfold Marker.ofJson?
    refine (Option.bind_some _ _).trans ?_
    rw [ResourceId.codes.ofList.required_write (fun _ _ => trivial) rfl]
    rfl
  of_read _ _ _ := trivial

/-- A member is read back with its markers. They have no type names, so nothing is asked of them. -/
theorem MarkedMember.codes :
    Codes MarkedMember.toJson MarkedMember.ofJson? fun m => TypeName.AllRead m.member.typeNames where
  read_write := by
    intro m hm
    unfold MarkedMember.ofJson?
    refine (Option.bind_some _ _).trans ?_
    rw [Member.codes.required_write hm rfl,
      Marker.codes.ofList.required_write (fun _ _ => trivial) rfl]
    rfl
  of_read := by
    intro j m h
    simp only [MarkedMember.ofJson?, Option.bind_eq_bind, Option.bind_eq_some_iff] at h
    obtain ⟨j, -, member, hmember, markers, -, heq⟩ := h
    cases heq
    exact Member.codes.of_required hmember

/-- A class is read back with all of its members, if their type names and its own name were read. -/
theorem MarkedClass.codes :
    Codes MarkedClass.toJson MarkedClass.ofJson? fun c => TypeName.AllRead c.typeNames where
  read_write := by
    intro c hc
    obtain ⟨hname, hmembers⟩ := TypeName.allRead_cons.mp hc
    have hmembers := TypeName.allRead_flatMap.mp hmembers
    unfold MarkedClass.ofJson?
    refine (Option.bind_some _ _).trans ?_
    rw [TypeName.codes.required_write hname rfl, MarkedMember.codes.ofList.required_write hmembers rfl]
    rfl
  of_read := by
    intro j c h
    simp only [MarkedClass.ofJson?, Option.bind_eq_bind, Option.bind_eq_some_iff] at h
    obtain ⟨j, -, name, hname, members, hmembers, heq⟩ := h
    cases heq
    exact TypeName.allRead_cons.mpr ⟨TypeName.codes.of_required hname,
      TypeName.allRead_flatMap.mpr (MarkedMember.codes.ofList.of_required hmembers)⟩

/-! ### The manifest -/

/-- The declaration of a resource kind is read back with its variants. -/
theorem ResourceDecl.codes : Codes ResourceDecl.toJson ResourceDecl.ofJson?
    fun d => TypeName.AllRead (d.variants.flatMap ResourceSpec.typeNames) where
  read_write := by
    intro d hd
    unfold ResourceDecl.ofJson?
    refine (Option.bind_some _ _).trans ?_
    rw [ResourceSpec.codes.ofList.required_write (TypeName.allRead_flatMap.mp hd) rfl]
    rfl
  of_read := by
    intro j d h
    simp only [ResourceDecl.ofJson?, Option.bind_eq_bind, Option.bind_eq_some_iff] at h
    obtain ⟨j, -, kind, -, variants, hvariants, heq⟩ := h
    cases heq
    exact TypeName.allRead_flatMap.mpr (ResourceSpec.codes.ofList.of_required hvariants)

/-- The spec of a listener kind is read beside its name. -/
theorem ListenerDecl.codes :
    Codes ListenerDecl.toJson ListenerDecl.ofJson? fun d => TypeName.AllRead d.spec.typeNames where
  read_write := by
    intro d hd
    have hspec : ListenerSpec.ofJson? d.toJson = some d.spec := by
      refine ListenerSpec.ofJson?_of_parts hd fun position key hkey =>
        part?_tagged ?_ d.kind.name _ _
      rintro rfl
      exact absurd hkey (by decide)
    show (ListenerSpec.ofJson? d.toJson).bind (fun spec => some (ListenerDecl.mk d.kind spec)) = _
    rw [hspec]
    rfl
  of_read := by
    intro j d h
    simp only [ListenerDecl.ofJson?, Option.bind_eq_bind, Option.bind_eq_some_iff] at h
    obtain ⟨name, -, kind, -, spec, hspec, heq⟩ := h
    cases heq
    exact ListenerSpec.codes.of_read j spec hspec

/-- A manifest is read back if all type names in it were read, and the type names of any manifest
that is read were. -/
theorem Manifest.codes :
    Codes Manifest.toJson Manifest.ofJson? fun m => TypeName.AllRead m.typeNames where
  read_write := by
    intro m hm
    simp only [Manifest.typeNames, TypeName.allRead_append, TypeName.allRead_flatMap (l := m.types),
      TypeName.allRead_flatMap (l := m.resources), TypeName.allRead_flatMap (l := m.listeners),
      TypeName.allRead_flatMap (l := m.classes)] at hm
    obtain ⟨⟨⟨htypes, hresources⟩, hlisteners⟩, hclasses⟩ := hm
    unfold Manifest.ofJson?
    refine (Option.bind_some _ _).trans ?_
    rw [ClassType.codes.ofList.defaulted_write htypes rfl,
      Kind.codes.ofList.defaulted_write (fun _ _ => trivial) rfl,
      ResourceDecl.codes.ofList.defaulted_write hresources rfl,
      ListenerDecl.codes.ofList.defaulted_write hlisteners rfl,
      MarkedClass.codes.ofList.defaulted_write hclasses rfl]
    rfl
  of_read := by
    intro j m h
    simp only [Manifest.ofJson?, Option.bind_eq_bind, Option.bind_eq_some_iff] at h
    obtain ⟨j, -, types, htypes, views, -, resources, hresources, listeners, hlisteners, classes,
      hclasses, heq⟩ := h
    cases heq
    simp only [Manifest.typeNames, TypeName.allRead_append]
    refine ⟨⟨⟨?_, ?_⟩, ?_⟩, ?_⟩
    · exact TypeName.allRead_flatMap.mpr
        (ClassType.codes.ofList.of_defaulted (List.forall_mem_nil _) htypes)
    · exact TypeName.allRead_flatMap.mpr
        (ResourceDecl.codes.ofList.of_defaulted (List.forall_mem_nil _) hresources)
    · exact TypeName.allRead_flatMap.mpr
        (ListenerDecl.codes.ofList.of_defaulted (List.forall_mem_nil _) hlisteners)
    · exact TypeName.allRead_flatMap.mpr
        (MarkedClass.codes.ofList.of_defaulted (List.forall_mem_nil _) hclasses)

/-- A manifest is read back as it was written exactly if its type names were read. So whatever a
manifest is read from, it is written in a form that is read as the same manifest, and that is
written in the same way again. -/
theorem Manifest.ofJson?_toJson (m : Manifest) :
    (ofJson? m.toJson = some m ↔ TypeName.AllRead m.typeNames)
      ∧ ∀ j, ofJson? j = some m →
        ofJson? m.toJson = some m ∧ (ofJson? m.toJson).map toJson = some m.toJson := by
  constructor
  · exact ⟨Manifest.codes.of_read m.toJson m, Manifest.codes.read_write m⟩
  · intro j hj
    have hread := Manifest.codes.read_write m (Manifest.codes.of_read j m hj)
    exact ⟨hread, by rw [hread, Option.map_some]⟩

/-! ### A manifest in a short form -/

namespace ShortForm

/-- A manifest without the fields that have defaults. A type name has blanks in it, and a marker
is the list of its fields. -/
def slider : Json :=
  .object
    [("listeners", .array
        [.object
          [("callback_name", .null), ("name", .string "OnSlide"),
            ("owner_type", .string "com.example.Slider"), ("setter_name", .string "setOnSlide"),
            ("listener_type", .string "com.example.Slider$OnSlide")]]),
      ("classes", .array
        [.object
          [("name", .string " com.example.Player "),
            ("members", .array
              [.object
                [("member", .object
                    [("name", .string "slide"), ("target", .string "method"),
                      ("args", .array [.string "int [] []", .string "float"]),
                      ("returns", .string "void"), ("visibility", .object [("private", .null)])]),
                  ("markers", .array [.array [.string "OnSlide", .array [.int (-7)]]])]])]])]

/-- What it says. -/
def manifest : Manifest :=
  { listeners :=
      [⟨⟨"OnSlide"⟩, ⟨⟨"com.example.Slider"⟩, ⟨"com.example.Slider$OnSlide"⟩, "setOnSlide", none, none⟩⟩]
    classes :=
      [{ name := ⟨"com.example.Player"⟩
         members :=
          [⟨.method
              { name := "slide", parameters := [⟨"int[][]"⟩, .float], returns := .void
                visibility := .ownClass },
            [⟨⟨"OnSlide"⟩, [⟨BitVec.ofInt 32 (-7)⟩], false⟩]⟩] }] }

/-- The short form is read as the manifest, which is read back from its own form. That form
has members that the short one leaves out. -/
theorem ofJson?_toJson_manifest :
    Manifest.ofJson? slider = some manifest ∧ TypeName.AllRead manifest.typeNames
      ∧ Manifest.ofJson? manifest.toJson = some manifest
      ∧ (Manifest.ofJson? manifest.toJson).map Manifest.toJson = some manifest.toJson
      ∧ slider.member? "views" = none ∧ manifest.toJson.member? "views" = some (.array []) := by
  have hread : Manifest.ofJson? slider = some manifest := by decide +kernel
  obtain ⟨hiff, hagain⟩ := Manifest.ofJson?_toJson manifest
  obtain ⟨hback, hform⟩ := hagain slider hread
  exact ⟨hread, hiff.mp hback, hback, hform, by rfl, by rfl⟩

end ShortForm

end BindingCompiler
