import CloudImages.Proofs.Json.Access
import CloudImages.Proofs.Text.Numerals

set_option autoImplicit false

/-! # What members read as

What is read from a value, and what is wrong with a member that cannot be read. Both are told by the
value alone, case by case; the lemmas say that the reads go by it. -/

namespace CloudImages.Json

/-! ## Values -/

namespace Value

/-- A scalar has a text: a string its own, a number or a boolean the one it is written as. -/
inductive HasText : Value → String → Prop where
  | string (s : String) : HasText (.string s) s
  | number (n : Number) : HasText (.number n) (Value.number n).render
  | boolean (b : Bool) : HasText (.boolean b) (toString b)

/-- A value reads as a signed word: a number of that value, or its numeral in a string, with blanks
around it or none. -/
inductive ReadsInteger : Value → Int64 → Prop where
  | number {n : Integer} {w : Int64} (same : w.toInt = n.val) :
      ReadsInteger (.number (.integer n)) w
  | quoted {s : String} {numeral : List Char} {w : Int64} (padded : Text.Padded numeral s.toList)
      (numeral : Text.Numeral numeral w.toInt) : ReadsInteger (.string s) w

/-- A value reads as a boolean: the boolean itself, or its word in a string. -/
inductive ReadsBoolean : Value → Bool → Prop where
  | boolean (b : Bool) : ReadsBoolean (.boolean b) b
  | quoted (b : Bool) : ReadsBoolean (.string (toString b)) b

end Value

/-- The values that are accepted where something is asked for. -/
def Expected.Accepts : Expected → Value → Prop
  | .object, v => ∃ members, v = .object members
  | .array, v => ∃ elements, v = .array elements
  | .string, v => ∃ text, v.HasText text
  | .integer, v => ∃ n, v.ReadsInteger n
  | .boolean, v => ∃ b, v.ReadsBoolean b

namespace Coercion

open Value

theorem text_read?_eq_some_iff {v : Value} {s : String} :
    text.read? v = some s ↔ v.HasText s := by
  constructor
  · intro h
    cases v with
    | string s =>
      cases h
      exact .string s
    | number n =>
      cases h
      exact .number n
    | boolean b =>
      cases h
      cases b
      · exact .boolean false
      · exact .boolean true
    | null | array vs | object ms => exact absurd h (by simp [text])
  · intro h
    cases h with
    | string | number => rfl
    | boolean b => cases b <;> rfl

theorem integer_read?_eq_some_iff_reads {v : Value} {w : Int64} :
    integer.read? v = some w ↔ v.ReadsInteger w := by
  constructor
  · intro h
    cases v with
    | number n =>
      cases n with
      | integer n => exact .number (integer_read?_eq_some_iff.1 h)
      | double x => exact absurd h (by simp [integer])
    | string s =>
      obtain ⟨n, read, word⟩ := Option.bind_eq_some_iff.1 h
      obtain rfl := Text.toInt_of_int64? word
      obtain ⟨inner, padded, numeral⟩ := Text.integer?_trim_eq_some_iff.1 read
      exact .quoted padded numeral
    | null | boolean b | array vs | object ms => exact absurd h (by simp [integer])
  · intro h
    cases h with
    | number same => exact integer_read?_eq_some_iff.2 same
    | quoted padded numeral =>
      exact Option.bind_eq_some_iff.2
        ⟨_, Text.integer?_trim_eq_some_iff.2 ⟨_, padded, numeral⟩, Text.int64?_toInt w⟩

theorem boolean_read?_eq_some_iff {v : Value} {b : Bool} :
    boolean.read? v = some b ↔ v.ReadsBoolean b := by
  constructor
  · intro h
    cases v with
    | boolean b =>
      cases h
      exact .boolean b
    | string s =>
      simp only [boolean] at h
      split at h
      · next yes =>
        cases h
        exact yes ▸ .quoted true
      · split at h
        · next no =>
          cases h
          exact no ▸ .quoted false
        · exact absurd h (by simp)
    | null | number n | array vs | object ms => exact absurd h (by simp [boolean])
  · intro h
    cases h with
    | boolean => rfl
    | quoted => cases b <;> rfl

/-- The values that a coercion can read are those that are accepted for it. -/
def Faithful {α : Type} (c : Coercion α) : Prop :=
  ∀ v, (∃ a, c.read? v = some a) ↔ c.expected.Accepts v

theorem object_faithful : object.Faithful := by
  intro v
  cases v <;> simp [object, Expected.Accepts]

theorem array_faithful : array.Faithful := by
  intro v
  cases v <;> simp [array, Expected.Accepts]

theorem text_faithful : text.Faithful := fun _ => exists_congr fun _ => text_read?_eq_some_iff

theorem integer_faithful : integer.Faithful :=
  fun _ => exists_congr fun _ => integer_read?_eq_some_iff_reads

theorem boolean_faithful : boolean.Faithful :=
  fun _ => exists_congr fun _ => boolean_read?_eq_some_iff

theorem Faithful.read?_eq_none_iff {α : Type} {c : Coercion α} (h : c.Faithful) {v : Value} :
    c.read? v = none ↔ ¬ c.expected.Accepts v := by
  rw [← h v, Option.eq_none_iff_forall_ne_some, not_exists]

end Coercion

/-! ## Members -/

namespace Value

open Outcome

variable {α : Type}

/-- An object has a member of its own, one that is not null. -/
def Has (v : Value) (key : String) (found : Value) : Prop :=
  ∃ members, v = .object members ∧ members.lookup key = some found ∧ found ≠ .null

/-- An object has no member under a key, or only null. -/
def Lacks (v : Value) (key : String) : Prop :=
  ∃ members, v = .object members ∧
    (members.lookup key = none ∨ members.lookup key = some .null)

theorem get_eq_ok_iff_reads {c : Coercion α} {Reads : Value → α → Prop}
    (reads : ∀ {found a}, c.read? found = some a ↔ Reads found a) {v : Value} {key : String}
    {a : α} : v.get c key = .ok a ↔ ∃ found, v.Has key found ∧ Reads found a := by
  rw [get_eq_ok_iff]
  exact exists_congr fun found => and_congr field?_eq_some_iff reads

theorem get_text_eq_ok_iff {v : Value} {key s : String} :
    v.get .text key = .ok s ↔ ∃ found, v.Has key found ∧ found.HasText s :=
  get_eq_ok_iff_reads Coercion.text_read?_eq_some_iff

theorem get_integer_eq_ok_iff {v : Value} {key : String} {n : Int64} :
    v.get .integer key = .ok n ↔ ∃ found, v.Has key found ∧ found.ReadsInteger n :=
  get_eq_ok_iff_reads Coercion.integer_read?_eq_some_iff_reads

theorem get_boolean_eq_ok_iff {v : Value} {key : String} {b : Bool} :
    v.get .boolean key = .ok b ↔ ∃ found, v.Has key found ∧ found.ReadsBoolean b :=
  get_eq_ok_iff_reads Coercion.boolean_read?_eq_some_iff

theorem get_object_eq_ok_iff {v part : Value} {key : String} :
    v.get .object key = .ok part ↔ ∃ members, part = .object members ∧ v.Has key part := by
  rw [get_eq_ok_iff_reads Coercion.object_read?_eq_some_iff]
  constructor
  · rintro ⟨found, there, members, rfl, rfl⟩
    exact ⟨members, rfl, there⟩
  · rintro ⟨members, rfl, there⟩
    exact ⟨_, there, members, rfl, rfl⟩

theorem getOr_eq_ok_iff_reads {c : Coercion α} {Reads : Value → α → Prop}
    (reads : ∀ {found a}, c.read? found = some a ↔ Reads found a) {v : Value} {key : String}
    {default a : α} : v.getOr c key default = .ok a ↔
      v.Lacks key ∧ a = default ∨ ∃ found, v.Has key found ∧ Reads found a := by
  rw [getOr_eq_ok_iff]
  refine or_congr (and_congr_left' field?_eq_none_iff) (exists_congr fun found => ?_)
  exact and_congr field?_eq_some_iff reads

theorem getOr_integer_eq_ok_iff {v : Value} {key : String} {default n : Int64} :
    v.getOr .integer key default = .ok n ↔
      v.Lacks key ∧ n = default ∨ ∃ found, v.Has key found ∧ found.ReadsInteger n :=
  getOr_eq_ok_iff_reads Coercion.integer_read?_eq_some_iff_reads

/-! ### What is wrong with a member -/

/-- What is wrong with a member that may be absent. -/
inductive BadIfPresent (v : Value) (expected : Expected) (key : String) : AccessError → Prop where
  | notObject (other : ¬ ∃ members, v = .object members) :
      BadIfPresent v expected key (.notA .object v.kind)
  | wrongType {found : Value} (there : v.Has key found) (other : ¬ expected.Accepts found) :
      BadIfPresent v expected key (.wrongType key expected found.kind)

/-- What is wrong with a member that has to be there. -/
inductive Bad (v : Value) (expected : Expected) (key : String) : AccessError → Prop where
  | missing (lacks : v.Lacks key) : Bad v expected key (.missingKey key)
  | present {e : AccessError} (bad : v.BadIfPresent expected key e) : Bad v expected key e

theorem Has.unique {v found other : Value} {key : String} (h : v.Has key found)
    (h' : v.Has key other) : found = other := by
  have same := (field?_eq_some_iff.2 h).symm.trans (field?_eq_some_iff.2 h')
  exact Option.some.inj (Except.ok.inj same)

theorem Has.not_lacks {v found : Value} {key : String} (h : v.Has key found) : ¬ v.Lacks key := by
  intro lacks
  have same := (field?_eq_some_iff.2 h).symm.trans (field?_eq_none_iff.2 lacks)
  exact absurd same (by simp)

theorem field?_eq_error_iff {v : Value} {key : String} {e : AccessError} :
    v.field? key = .error e ↔ (¬ ∃ members, v = .object members) ∧ .notA .object v.kind = e := by
  cases v with
  | object members =>
    rw [field?]
    split <;> simp
  | null | boolean b | number n | string s | array vs => simp [field?]

theorem accept_eq_error_iff {c : Coercion α} (faithful : c.Faithful) {key : String} {found : Value}
    {e : AccessError} : accept c key found = .error e ↔
      ¬ c.expected.Accepts found ∧ .wrongType key c.expected found.kind = e := by
  rw [← faithful.read?_eq_none_iff, accept]
  split
  · next read => simp [read]
  · next read => simp [read]

/-- What is done with a member fails when it is asked for in something that is no object, and else
as it does for the member that is found. -/
theorem field?_bind_eq_error_iff {v : Value} {key : String}
    {f : Option Value → Except AccessError α} {e : AccessError} :
    v.field? key >>= f = .error e ↔
      ((¬ ∃ members, v = .object members) ∧ .notA .object v.kind = e) ∨
      (v.Lacks key ∧ f none = .error e) ∨ ∃ found, v.Has key found ∧ f (some found) = .error e := by
  rw [bind_eq_error_iff, field?_eq_error_iff]
  simp only [Option.exists, field?_eq_none_iff, field?_eq_some_iff]
  rfl

theorem asA_eq_error_iff {c : Coercion α} (faithful : c.Faithful) {v : Value} {e : AccessError} :
    v.asA c = .error e ↔ ¬ c.expected.Accepts v ∧ .notA c.expected v.kind = e := by
  rw [← faithful.read?_eq_none_iff, asA]
  split
  · next read => simp [read]
  · next read => simp [read]

theorem getOr_eq_error_iff {c : Coercion α} (faithful : c.Faithful) {v : Value} {key : String}
    {default : α} {e : AccessError} :
    v.getOr c key default = .error e ↔ v.BadIfPresent c.expected key e := by
  rw [getOr, field?_bind_eq_error_iff]
  constructor
  · rintro (⟨other, rfl⟩ | ⟨-, taken⟩ | ⟨found, there, rejected⟩)
    · exact .notObject other
    · exact absurd taken (by simp)
    · obtain ⟨other, rfl⟩ := (accept_eq_error_iff faithful).1 rejected
      exact .wrongType there other
  · intro h
    cases h with
    | notObject other => exact Or.inl ⟨other, rfl⟩
    | wrongType there other =>
      exact Or.inr (Or.inr ⟨_, there, (accept_eq_error_iff faithful).2 ⟨other, rfl⟩⟩)

theorem get_eq_error_iff {c : Coercion α} (faithful : c.Faithful) {v : Value} {key : String}
    {e : AccessError} : v.get c key = .error e ↔ v.Bad c.expected key e := by
  rw [get, field?_bind_eq_error_iff]
  constructor
  · rintro (⟨other, rfl⟩ | ⟨lacks, missing⟩ | ⟨found, there, rejected⟩)
    · exact .present (.notObject other)
    · cases missing
      exact .missing lacks
    · obtain ⟨other, rfl⟩ := (accept_eq_error_iff faithful).1 rejected
      exact .present (.wrongType there other)
  · intro h
    cases h with
    | missing lacks => exact Or.inr (Or.inl ⟨lacks, rfl⟩)
    | present bad =>
      cases bad with
      | notObject other => exact Or.inl ⟨other, rfl⟩
      | wrongType there other =>
        exact Or.inr (Or.inr ⟨_, there, (accept_eq_error_iff faithful).2 ⟨other, rfl⟩⟩)

end Value

end CloudImages.Json
