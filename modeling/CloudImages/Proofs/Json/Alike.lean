import CloudImages.Proofs.Json.Readings

set_option autoImplicit false

/-! # Reads of two documents side by side

A read looks at the member under its key and at nothing else. So it goes the same way in two
documents if what they show under that key is alike (`Value.get_alike`, `Value.getOr_alike`). How
alike that has to be depends on the coercion: a relation on members is one that it respects if it
tells no two related members apart (`Coercion.Respects`). -/

namespace CloudImages.Json

open Outcome

variable {α : Type} {R : Value → Value → Prop} {S : α → α → Prop} {v w : Value} {key : String}

/-- Of two members that `R` relates, both are accepted or none is; they then read as `S` says, and
else they are of one kind. -/
def Coercion.Respects (c : Coercion α) (R : Value → Value → Prop) (S : α → α → Prop) : Prop :=
  ∀ {v w}, R v w → v.kind = w.kind ∧ Option.Rel S (c.read? v) (c.read? w)

namespace Value

/-! ## Reads -/

theorem accept_alike {c : Coercion α} (respects : c.Respects R S) (related : R v w) :
    Alike Eq S (accept c key v) (accept c key w) := by
  obtain ⟨kind, read⟩ := respects related
  rw [accept, accept]
  generalize c.read? v = found, c.read? w = found' at read
  cases read with
  | none => exact .error (by rw [kind])
  | some related => exact .ok related

theorem asA_alike {c : Coercion α} (respects : c.Respects R S) (related : R v w) :
    Alike Eq S (v.asA c) (w.asA c) := by
  obtain ⟨kind, read⟩ := respects related
  rw [asA, asA]
  generalize c.read? v = found, c.read? w = found' at read
  cases read with
  | none => exact .error (by rw [kind])
  | some related => exact .ok related

section

variable {E : AccessError → AccessError → Prop} {c : Coercion α}

/-- A read goes the same way in two documents if what they show is accepted alike; where the read
fails, `E` relates the errors. -/
theorem get_alike_of_accept (same : ∀ e, E e e)
    (accepted : ∀ {v w}, R v w → Alike E S (accept c key v) (accept c key w))
    (shown : Alike Eq (Option.Rel R) (v.field? key) (w.field? key)) :
    Alike E S (v.get c key) (w.get c key) := by
  refine (shown.of_eq_errors same).bind fun found found' _ _ related => ?_
  cases related with
  | none => exact .error (same _)
  | some related => exact accepted related

theorem getOr_alike_of_accept (same : ∀ e, E e e)
    (accepted : ∀ {v w}, R v w → Alike E S (accept c key v) (accept c key w)) {default : α}
    (unset : S default default) (shown : Alike Eq (Option.Rel R) (v.field? key) (w.field? key)) :
    Alike E S (v.getOr c key default) (w.getOr c key default) := by
  refine (shown.of_eq_errors same).bind fun found found' _ _ related => ?_
  cases related with
  | none => exact .ok unset
  | some related => exact accepted related

end

theorem get_alike {c : Coercion α} (respects : c.Respects R S)
    (shown : Alike Eq (Option.Rel R) (v.field? key) (w.field? key)) :
    Alike Eq S (v.get c key) (w.get c key) :=
  get_alike_of_accept (fun _ => rfl) (accept_alike respects) shown

theorem getOr_alike {c : Coercion α} (respects : c.Respects R S) {default : α}
    (same : S default default) (shown : Alike Eq (Option.Rel R) (v.field? key) (w.field? key)) :
    Alike Eq S (v.getOr c key default) (w.getOr c key default) :=
  getOr_alike_of_accept (fun _ => rfl) (accept_alike respects) same shown

theorem get_eq_of_field?_eq (same : v.field? key = w.field? key) (c : Coercion α) :
    v.get c key = w.get c key := by
  rw [get, get, same]

theorem getOr_eq_of_field?_eq (same : v.field? key = w.field? key) (c : Coercion α) (default : α) :
    v.getOr c key default = w.getOr c key default := by
  rw [getOr, getOr, same]

/-! ## What two documents show -/

/-- Two values show the same under a key: the same member, or none in either of them; a member that
is null counts as none. -/
def SameUnder (key : String) (v w : Value) : Prop :=
  ∀ found, v.Has key found ↔ w.Has key found

/-- Two values show members of the same kind under a key, or none in either of them. -/
def SameKindUnder (key : String) (v w : Value) : Prop :=
  ∀ kind, (∃ found, v.Has key found ∧ found.kind = kind) ↔
    ∃ found, w.Has key found ∧ found.kind = kind

/-- Two values look alike in a part: they show parts of the same kind under its name, and the parts
show the same under the given keys. -/
structure AlikeInPart (name : String) (keys : List String) (v w : Value) : Prop where
  kind : SameKindUnder name v w
  members : ∀ {part part' : Value}, v.Has name part → w.Has name part' →
    ∀ key ∈ keys, SameUnder key part part'

/-- An object shows something under a key, or lacks it. -/
theorem lacks_or_has (object : ∃ members, v = .object members) (key : String) :
    v.Lacks key ∨ ∃ found, v.Has key found := by
  cases read : v.field? key with
  | error e => exact absurd object (field?_eq_error_iff.1 read).1
  | ok found? =>
    cases found? with
    | none => exact Or.inl (field?_eq_none_iff.1 read)
    | some found => exact Or.inr ⟨found, field?_eq_some_iff.1 read⟩

/-- Objects show the same under a key exactly when the same is found there. -/
theorem sameUnder_iff (object : ∃ members, v = .object members)
    (object' : ∃ members, w = .object members) :
    SameUnder key v w ↔ v.field? key = w.field? key := by
  constructor
  · intro same
    rcases lacks_or_has object key with lacks | ⟨found, there⟩
    · rcases lacks_or_has object' key with lacks' | ⟨found, there⟩
      · rw [field?_eq_none_iff.2 lacks, field?_eq_none_iff.2 lacks']
      · exact absurd lacks ((same found).2 there).not_lacks
    · rw [field?_eq_some_iff.2 there, field?_eq_some_iff.2 ((same found).1 there)]
  · intro same found
    constructor
    · exact fun there => field?_eq_some_iff.1 (same ▸ field?_eq_some_iff.2 there)
    · exact fun there => field?_eq_some_iff.1 (same ▸ field?_eq_some_iff.2 there)

/-- Where both parts are there, it is enough to compare them. -/
theorem alikeInPart_of_has {name : String} {keys : List String} {part part' : Value}
    (there : v.Has name part) (there' : w.Has name part') (kind : part.kind = part'.kind)
    (same : ∀ key ∈ keys, SameUnder key part part') : AlikeInPart name keys v w := by
  refine ⟨fun _ => ⟨?_, ?_⟩, ?_⟩
  · rintro ⟨found, has, rfl⟩
    exact ⟨part', there', by rw [has.unique there, kind]⟩
  · rintro ⟨found, has, rfl⟩
    exact ⟨part, there, by rw [has.unique there', kind]⟩
  · intro found found' has has' key member
    rw [has.unique there, has'.unique there']
    exact same key member

/-- Parts that look alike are both read, or neither is and for the same reason. -/
theorem get_object_alike_of_alikeInPart {name : String} {keys : List String}
    (object : ∃ members, v = .object members) (object' : ∃ members, w = .object members)
    (alike : AlikeInPart name keys v w) :
    Alike Eq (fun part part' => ∀ key ∈ keys, part.field? key = part'.field? key)
      (v.get .object name) (w.get .object name) := by
  have shown : Alike Eq (Option.Rel fun part part' : Value =>
      part.kind = part'.kind ∧ ∀ key ∈ keys, SameUnder key part part')
      (v.field? name) (w.field? name) := by
    rcases lacks_or_has object name with lacks | ⟨part, there⟩
    · rcases lacks_or_has object' name with lacks' | ⟨part, there⟩
      · rw [field?_eq_none_iff.2 lacks, field?_eq_none_iff.2 lacks']
        exact .ok .none
      · obtain ⟨_, there', -⟩ := (alike.kind part.kind).2 ⟨part, there, rfl⟩
        exact absurd lacks there'.not_lacks
    · obtain ⟨part', there', kind⟩ := (alike.kind part.kind).1 ⟨part, there, rfl⟩
      rw [field?_eq_some_iff.2 there, field?_eq_some_iff.2 there']
      exact .ok (.some ⟨kind.symm, alike.members there there'⟩)
  refine get_alike ?_ shown
  rintro part part' ⟨kind, same⟩
  refine ⟨kind, ?_⟩
  cases part <;> cases part' <;> simp only [Value.kind, reduceCtorEq] at kind
  case object members members' =>
    exact .some fun key there => (sameUnder_iff ⟨_, rfl⟩ ⟨_, rfl⟩).1 (same key there)
  all_goals exact .none

end Value

end CloudImages.Json
