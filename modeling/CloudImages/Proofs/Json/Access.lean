import CloudImages.Json.Access
import CloudImages.Proofs.Outcome

set_option autoImplicit false

/-! # When a member can be read

A read succeeds exactly when the value that holds the member is an object and the member is of a
kind that is accepted; a member that is absent or null can only be read with a default. -/

namespace CloudImages.Json

/-! ## What is accepted -/

namespace Coercion

theorem object_read?_eq_some_iff {found v : Value} :
    object.read? found = some v ↔ ∃ members, found = .object members ∧ v = .object members := by
  cases found <;> simp [object, eq_comm]

theorem array_read?_eq_some_iff {found v : Value} :
    array.read? found = some v ↔ ∃ elements, found = .array elements ∧ v = .array elements := by
  cases found <;> simp [array, eq_comm]

/-- An integer is read as the signed word of its value. -/
theorem integer_read?_eq_some_iff {n : Integer} {w : Int64} :
    integer.read? (.number (.integer n)) = some w ↔ w.toInt = n.val := by
  constructor
  · exact Text.toInt_of_int64?
  · intro same
    have read := Text.int64?_toInt w
    rwa [same] at read

/-- Only strings, numbers and booleans have a text. -/
theorem kind_of_text_read? {v : Value} {s : String} (h : text.read? v = some s) :
    v.kind = .string ∨ v.kind = .number ∨ v.kind = .boolean := by
  cases v <;> simp_all [text, Value.kind]

end Coercion

/-! ## Members -/

namespace Value

open Outcome

variable {α : Type}

theorem field?_eq_some_iff {v found : Value} {key : String} :
    v.field? key = .ok (some found) ↔
      ∃ members, v = .object members ∧ members.lookup key = some found ∧ found ≠ .null := by
  cases v with
  | object members =>
    simp only [object.injEq, exists_eq_left']
    rw [field?]
    split
    · next absent => simp only [Except.ok.injEq, absent, reduceCtorEq, false_and]
    · next null => simp +contextual [null, eq_comm]
    · next other notNull there =>
      rw [there, Except.ok.injEq, Option.some.injEq]
      exact ⟨fun same => ⟨same, fun null => notNull (same.trans null)⟩, fun h => h.1⟩
  | null | boolean b | number n | string s | array vs => simp [field?]

theorem field?_eq_none_iff {v : Value} {key : String} :
    v.field? key = .ok none ↔ ∃ members, v = .object members ∧
      (members.lookup key = none ∨ members.lookup key = some .null) := by
  cases v with
  | object members =>
    simp only [object.injEq, exists_eq_left']
    rw [field?]
    split
    · next absent => exact iff_of_true rfl (Or.inl absent)
    · next null => exact iff_of_true rfl (Or.inr null)
    · next other notNull there =>
      rw [there, Except.ok.injEq, Option.some.injEq]
      exact ⟨fun h => absurd h (by simp), fun h => h.elim nofun fun null => absurd null notNull⟩
  | null | boolean b | number n | string s | array vs => simp [field?]

theorem accept_eq_ok_iff {c : Coercion α} {key : String} {found : Value} {a : α} :
    accept c key found = .ok a ↔ c.read? found = some a := by
  rw [accept]
  split
  · next other read => simp [read]
  · next read => simp [read]

theorem get_eq_ok_iff {c : Coercion α} {v : Value} {key : String} {a : α} :
    v.get c key = .ok a ↔ ∃ found, v.field? key = .ok (some found) ∧ c.read? found = some a := by
  constructor
  · intro h
    obtain ⟨member, found, h₁⟩ := bind_eq_ok_iff.1 h
    cases member with
    | none => exact absurd h₁ (by simp)
    | some value => exact ⟨value, found, accept_eq_ok_iff.1 h₁⟩
  · intro h
    obtain ⟨value, found, read⟩ := h
    rw [get_of_field?_some found]
    exact accept_eq_ok_iff.2 read

/-- What is found under a key is read, if it is of a kind that is accepted. -/
theorem get_of_lookup {c : Coercion α} {members : Members Value} {key : String} {found : Value}
    {a : α} (there : members.lookup key = some found) (notNull : found ≠ .null)
    (read : c.read? found = some a) : (object members).get c key = .ok a :=
  get_eq_ok_iff.2 ⟨found, field?_eq_some_iff.2 ⟨members, rfl, there, notNull⟩, read⟩

theorem getOr_eq_ok_iff {c : Coercion α} {v : Value} {key : String} {default a : α} :
    v.getOr c key default = .ok a ↔ v.field? key = .ok none ∧ a = default ∨
      ∃ found, v.field? key = .ok (some found) ∧ c.read? found = some a := by
  constructor
  · intro h
    obtain ⟨member, found, h₁⟩ := bind_eq_ok_iff.1 h
    cases member with
    | none =>
      cases h₁
      exact Or.inl ⟨found, rfl⟩
    | some value => exact Or.inr ⟨value, found, accept_eq_ok_iff.1 h₁⟩
  · intro h
    rcases h with ⟨absent, rfl⟩ | ⟨value, found, read⟩
    · exact getOr_of_field?_none absent
    · rw [getOr_of_field?_some found]
      exact accept_eq_ok_iff.2 read

theorem asA_eq_ok_iff {c : Coercion α} {v : Value} {a : α} :
    v.asA c = .ok a ↔ c.read? v = some a := by
  rw [asA]
  split
  · next other read => simp [read]
  · next read => simp [read]

theorem elements_eq_ok_iff {v : Value} {vs : List Value} : v.elements = .ok vs ↔ v = .array vs := by
  cases v <;> simp [elements]

theorem keys_eq_ok_iff {v : Value} {keys : List String} :
    v.keys = .ok keys ↔ ∃ members, v = .object members ∧ Members.names members = keys := by
  cases v <;> simp [Value.keys]

end Value

end CloudImages.Json
