import CloudImages.Proofs.Json.Reordered

set_option autoImplicit false

/-! # Reads with a default

Objects, arrays, integers and booleans are read in two flavours: one requires its member, the other
has a default for it. The two come out differently only where an object has no such member
(`Value.Flavours`). A member that is null is as good as none to both of them, so a null that is put
in or taken out changes nothing that a read looks at (`Value.NullToggled.field?_eq`). -/

namespace CloudImages

/-- Names are distinct when one of them is not among the others, and those are distinct. -/
theorem Members.distinct_iff_of_perm_cons {α : Type} {ms ns : Members α} {name : String} {value : α}
    (order : ns.Perm ((name, value) :: ms)) : ns.Distinct ↔ name ∉ ms.names ∧ ms.Distinct :=
  (order.map Prod.fst).nodup_iff.trans List.nodup_cons

namespace Json.Value

variable {α : Type}

/-! ## Two flavours -/

/-- A member that is accepted is read as it stands there. -/
structure ReadsItself (expected : Expected) (found part : Value) : Prop where
  accepted : expected.Accepts found
  same : part = found

/-- How the two flavours of a read come out in a document, where values read as `Reads` says. -/
structure Flavours (c : Coercion α) (expected : Expected) (Reads : Value → α → Prop) (v : Value)
    (key : String) : Prop where
  notObject : (¬ ∃ members, v = .object members) →
    v.get c key = .error (.notA .object v.kind) ∧
      ∀ default, v.getOr c key default = .error (.notA .object v.kind)
  absent : v.Lacks key →
    v.get c key = .error (.missingKey key) ∧ ∀ default, v.getOr c key default = .ok default
  read : ∀ {found a}, v.Has key found → Reads found a →
    v.get c key = .ok a ∧ ∀ default, v.getOr c key default = .ok a
  wrongType : ∀ {found}, v.Has key found → (∀ a, ¬ Reads found a) →
    v.get c key = .error (.wrongType key expected found.kind) ∧
      ∀ default, v.getOr c key default = .error (.wrongType key expected found.kind)

/-- What is wrong with a member that may be absent is wrong with it in both flavours. -/
theorem get_and_getOr_of_badIfPresent {c : Coercion α} (faithful : c.Faithful) {v : Value}
    {key : String} {e : AccessError} (bad : v.BadIfPresent c.expected key e) :
    v.get c key = .error e ∧ ∀ default, v.getOr c key default = .error e :=
  ⟨(get_eq_error_iff faithful).2 (.present bad), fun _ => (getOr_eq_error_iff faithful).2 bad⟩

theorem flavours_of_reads {c : Coercion α} {Reads : Value → α → Prop} (faithful : c.Faithful)
    (reads : ∀ {found a}, c.read? found = some a ↔ Reads found a) (v : Value) (key : String) :
    Flavours c c.expected Reads v key where
  notObject other := get_and_getOr_of_badIfPresent faithful (.notObject other)
  absent lacks :=
    have none := field?_eq_none_iff.2 lacks
    ⟨get_of_field?_none none, fun _ => getOr_of_field?_none none⟩
  read there read := by
    refine ⟨(get_eq_ok_iff_reads reads).2 ⟨_, there, read⟩, fun default => ?_⟩
    exact (getOr_eq_ok_iff_reads reads).2 (Or.inr ⟨_, there, read⟩)
  wrongType {found} there none := by
    have refused : ¬ c.expected.Accepts found := by
      rw [← faithful found]
      rintro ⟨a, read⟩
      exact none a (reads.1 read)
    exact get_and_getOr_of_badIfPresent faithful (.wrongType there refused)

/-- A coercion that keeps what it accepts reads it as it stands there. -/
theorem read?_eq_some_iff_itself {c : Coercion Value} (faithful : c.Faithful)
    (keeps : ∀ {found part}, c.read? found = some part → part = found) {found part : Value} :
    c.read? found = some part ↔ ReadsItself c.expected found part := by
  constructor
  · intro read
    exact ⟨(faithful found).1 ⟨part, read⟩, keeps read⟩
  · rintro ⟨accepted, rfl⟩
    obtain ⟨kept, read⟩ := (faithful part).2 accepted
    rwa [keeps read] at read

theorem object_read?_eq_some_iff_itself {found part : Value} :
    Coercion.object.read? found = some part ↔ ReadsItself .object found part := by
  refine read?_eq_some_iff_itself Coercion.object_faithful fun read => ?_
  obtain ⟨members, rfl, rfl⟩ := Coercion.object_read?_eq_some_iff.1 read
  rfl

theorem array_read?_eq_some_iff_itself {found part : Value} :
    Coercion.array.read? found = some part ↔ ReadsItself .array found part := by
  refine read?_eq_some_iff_itself Coercion.array_faithful fun read => ?_
  obtain ⟨elements, rfl, rfl⟩ := Coercion.array_read?_eq_some_iff.1 read
  rfl

/-! ## Null members -/

/-- Two objects differ by one member that is null: it was put in under a key that was not there, or
taken out. Where it stands does not matter, nor whether the other members keep their order. -/
inductive NullToggled : Value → Value → Prop where
  | putIn {ms ns : Members Value} {name : String} (distinct : Members.Distinct ms)
      (fresh : name ∉ Members.names ms) (order : ns.Perm ((name, .null) :: ms)) :
      NullToggled (.object ms) (.object ns)
  | takenOut {ms ns : Members Value} {name : String} (distinct : Members.Distinct ms)
      (order : ms.Perm ((name, .null) :: ns)) : NullToggled (.object ms) (.object ns)

/-- A null in front of the other members is as good as none. -/
theorem field?_cons_null {ms : Members Value} {name : String} (fresh : name ∉ Members.names ms)
    (key : String) : (object ((name, .null) :: ms)).field? key = (object ms).field? key := by
  by_cases same : key = name
  · subst same
    simp [field?, Members.lookup_eq_none_of_not_mem fresh]
  · simp [field?, List.lookup_cons, beq_false_of_ne same]

/-- An object with distinct keys, one of them with null, shows the same without it. -/
theorem field?_of_perm_cons_null {ms ns : Members Value} {name : String}
    (distinct : Members.Distinct ns) (order : ns.Perm ((name, .null) :: ms)) (key : String) :
    (object ns).field? key = (object ms).field? key := by
  obtain ⟨fresh, -⟩ := (Members.distinct_iff_of_perm_cons order).1 distinct
  rw [← field?_cons_null fresh, field?, field?, Members.lookup_eq_of_perm distinct order]

theorem NullToggled.field?_eq {v w : Value} (h : NullToggled v w) (key : String) :
    v.field? key = w.field? key := by
  cases h with
  | putIn distinct fresh order =>
    have distinct' := (Members.distinct_iff_of_perm_cons order).2 ⟨fresh, distinct⟩
    exact (field?_of_perm_cons_null distinct' order key).symm
  | takenOut distinct order => exact field?_of_perm_cons_null distinct order key

/-- Reads that require their member and reads with a default agree in every document: in one that is
no object both fail, and in an object they come out differently only where the member is absent or
null. A null that is put in under a key that is not there, or taken out, changes no read of any
key. -/
theorem flavours_and_reads_of_nullToggled (v : Value) (key : String) :
    Flavours .object .object (ReadsItself .object) v key ∧
    Flavours .array .array (ReadsItself .array) v key ∧
    Flavours .integer .integer ReadsInteger v key ∧
    Flavours .boolean .boolean ReadsBoolean v key ∧
    ∀ w, NullToggled v w → ∀ {α : Type} (c : Coercion α),
      v.get c key = w.get c key ∧ ∀ default, v.getOr c key default = w.getOr c key default := by
  refine ⟨?_, ?_, ?_, ?_, ?_⟩
  · exact flavours_of_reads Coercion.object_faithful object_read?_eq_some_iff_itself v key
  · exact flavours_of_reads Coercion.array_faithful array_read?_eq_some_iff_itself v key
  · exact flavours_of_reads Coercion.integer_faithful
      Coercion.integer_read?_eq_some_iff_reads v key
  · exact flavours_of_reads Coercion.boolean_faithful Coercion.boolean_read?_eq_some_iff v key
  · intro w toggled α c
    have same := toggled.field?_eq key
    exact ⟨get_eq_of_field?_eq same c, getOr_eq_of_field?_eq same c⟩

/-- An object with a null under one key and an object where an array belongs under another. -/
def annotated : Value :=
  .object [("Version", .string "1"), ("Note", .null), ("Env", .object [])]

theorem flavours_and_reads_of_nullToggled_annotated :
    NullToggled annotated (.object [("Env", .object []), ("Version", .string "1")]) ∧
    (annotated.get .integer "Note" = .error (.missingKey "Note") ∧
      annotated.getOr .integer "Note" (-1) = .ok (-1)) ∧
    (annotated.get .array "Env" = .error (.wrongType "Env" .array .object) ∧
      annotated.getOr .array "Env" emptyArray = .error (.wrongType "Env" .array .object)) ∧
    annotated.get .text "Version"
      = (object [("Env", .object []), ("Version", .string "1")]).get .text "Version" := by
  have order : [("Version", string "1"), ("Note", .null), ("Env", .object [])].Perm
      [("Note", .null), ("Env", .object []), ("Version", .string "1")] :=
    (List.Perm.swap ..).trans (.cons _ (.swap ..))
  have toggled : NullToggled annotated
      (.object [("Env", .object []), ("Version", .string "1")]) := .takenOut (by decide) order
  have noArray : ∀ part, ¬ ReadsItself .array (object []) part := by
    rintro part ⟨⟨elements, other⟩, -⟩
    cases other
  obtain ⟨-, -, note, -, -⟩ := flavours_and_reads_of_nullToggled annotated "Note"
  obtain ⟨-, env, -, -, -⟩ := flavours_and_reads_of_nullToggled annotated "Env"
  obtain ⟨-, -, -, -, version⟩ := flavours_and_reads_of_nullToggled annotated "Version"
  have absent := note.absent ⟨_, rfl, Or.inr rfl⟩
  have wrong := env.wrongType ⟨_, rfl, rfl, nofun⟩ noArray
  exact ⟨toggled, ⟨absent.1, absent.2 _⟩, ⟨wrong.1, wrong.2 _⟩, (version _ toggled .text).1⟩

end Json.Value

end CloudImages
