import CloudImages.Proofs.Json.Alike
import Mathlib.Data.List.Forall2

set_option autoImplicit false

/-! # Members in another order

Two documents may differ in the order of the members of their objects and in nothing else, at any
depth (`Value.Reordered`). Where keys are distinct, what is found under a key does not depend on
that order but for the order inside of it (`Value.Rearranged.field?_alike`). A scalar has no
members, so reads of scalars come out the same (`Value.Rearranged.get_eq`). -/

namespace CloudImages

/-! ## Looking up -/

theorem Members.lookup_eq_of_perm {α : Type} {ms ns : Members α} (distinct : ms.Distinct)
    (order : ms.Perm ns) (name : String) : ms.lookup name = ns.lookup name := by
  have distinct' : ns.Distinct := (order.map Prod.fst).nodup_iff.1 distinct
  refine Option.ext fun a => ?_
  rw [lookup_eq_some_iff_mem distinct, lookup_eq_some_iff_mem distinct', order.mem_iff]

namespace Json

open Outcome

namespace Value

/-! ## Documents -/

mutual

/-- Two values are the same but for the order of the members of objects. -/
inductive Reordered : Value → Value → Prop where
  | null : Reordered .null .null
  | boolean (b : Bool) : Reordered (.boolean b) (.boolean b)
  | number (n : Number) : Reordered (.number n) (.number n)
  | string (s : String) : Reordered (.string s) (.string s)
  | array {vs ws : List Value} (elements : List.Forall₂ Reordered vs ws) :
      Reordered (.array vs) (.array ws)
  | object {ms ms' ns : List (String × Value)} (members : List.Forall₂ ReorderedMember ms ms')
      (order : ms'.Perm ns) : Reordered (.object ms) (.object ns)

/-- Two members have the same key, and values that are the same but for the order of the members of
objects. -/
inductive ReorderedMember : String × Value → String × Value → Prop where
  | mk {key : String} {v w : Value} (value : Reordered v w) : ReorderedMember (key, v) (key, w)

end

/-- A value need not be reordered. -/
theorem Reordered.refl (v : Value) : Reordered v v := by
  induction v using Value.induction with
  | null => exact .null
  | boolean b => exact .boolean b
  | number n => exact .number n
  | string s => exact .string s
  | array vs ih => exact .array (List.forall₂_same.2 ih)
  | object ms ih => exact .object (List.forall₂_same.2 fun m there => .mk (ih m there)) (.refl ms)

theorem Reordered.of_perm {ms ns : List (String × Value)} (order : ms.Perm ns) :
    Reordered (.object ms) (.object ns) :=
  .object (List.forall₂_same.2 fun m _ => .mk (.refl m.2)) order

theorem Reordered.kind_eq {v w : Value} (h : Reordered v w) : v.kind = w.kind := by
  cases h <;> rfl

theorem names_of_reorderedMembers {ms ns : Members Value}
    (h : List.Forall₂ ReorderedMember ms ns) : Members.names ms = Members.names ns := by
  induction h with
  | nil => rfl
  | cons member _ ih =>
    obtain ⟨_⟩ := member
    simp only [Members.names, List.map_cons] at ih ⊢
    rw [ih]

theorem lookup_of_reorderedMembers {ms ns : Members Value}
    (h : List.Forall₂ ReorderedMember ms ns) (key : String) :
    Option.Rel Reordered (ms.lookup key) (ns.lookup key) := by
  induction h with
  | nil => exact .none
  | @cons _ _ _ _ member _ ih =>
    obtain ⟨value⟩ := member
    simp only [List.lookup_cons]
    split
    · exact .some value
    · exact ih

/-- Reordered objects have the same keys, in some order. -/
theorem names_perm_of_reordered {ms ns : Members Value} (h : Reordered (.object ms) (.object ns)) :
    (Members.names ms).Perm (Members.names ns) := by
  cases h with
  | object members order =>
    rw [names_of_reorderedMembers members]
    exact order.map Prod.fst

theorem lookup_of_reordered {ms ns : Members Value} (h : Reordered (.object ms) (.object ns))
    (distinct : Members.Distinct ms) (key : String) :
    Option.Rel Reordered (ms.lookup key) (ns.lookup key) := by
  cases h with
  | @object _ ms' _ members order =>
    have distinct' : Members.Distinct ms' := by
      rwa [Members.Distinct, ← names_of_reorderedMembers members]
    rw [← Members.lookup_eq_of_perm distinct' order]
    exact lookup_of_reorderedMembers members key

/-! ## Reads -/

/-- A document with distinct keys, and the same document with members in another order. -/
structure Rearranged (v w : Value) : Prop where
  reordered : Reordered v w
  distinct : v.DistinctKeys

variable {α : Type} {v w : Value}

theorem Rearranged.field?_alike (h : Rearranged v w) (key : String) :
    Alike Eq (Option.Rel Rearranged) (v.field? key) (w.field? key) := by
  obtain ⟨reordered, distinct⟩ := h
  cases reordered with
  | @object ms _ ns members order =>
    obtain ⟨keys, each⟩ := distinctKeys_object_iff.1 distinct
    have related := lookup_of_reordered (.object members order) keys key
    have inside : ∀ found, ms.lookup key = some found → found.DistinctKeys := fun found there =>
      each _ ((Members.lookup_eq_some_iff_mem keys).1 there)
    rw [field?, field?]
    generalize ms.lookup key = found?, ns.lookup key = found?' at related inside
    cases related with
    | none => exact .ok .none
    | some value =>
      have keys' := inside _ rfl
      -- null is found in both or in neither
      cases value with
      | null => exact .ok .none
      | boolean | number | string => exact .ok (.some ⟨.refl _, keys'⟩)
      | array elements => exact .ok (.some ⟨.array elements, keys'⟩)
      | object members order => exact .ok (.some ⟨.object members order, keys'⟩)
  | null | boolean | number | string | array => exact .error rfl

theorem Rearranged.elements_alike (h : Rearranged v w) :
    Alike Eq (List.Forall₂ Reordered) v.elements w.elements := by
  obtain ⟨reordered, -⟩ := h
  cases reordered with
  | array elements => exact .ok elements
  | null | boolean | number | string | object => exact .error rfl

theorem Rearranged.keys_alike (h : Rearranged v w) : Alike Eq List.Perm v.keys w.keys := by
  obtain ⟨reordered, -⟩ := h
  cases reordered with
  | object members order => exact .ok (names_perm_of_reordered (.object members order))
  | null | boolean | number | string | array => exact .error rfl

theorem rearranged_emptyArray : Rearranged emptyArray emptyArray :=
  ⟨.refl _, trivial⟩

theorem rearranged_emptyObject : Rearranged emptyObject emptyObject :=
  ⟨.refl _, List.nodup_nil, trivial⟩

end Value

namespace Coercion

open Value

variable {α : Type} {c : Coercion α}

theorem object_respects : object.Respects Rearranged Rearranged := by
  rintro v w ⟨reordered, distinct⟩
  refine ⟨reordered.kind_eq, ?_⟩
  cases reordered with
  | object members order => exact .some ⟨.object members order, distinct⟩
  | null | boolean | number | string | array => exact .none

theorem array_respects : array.Respects Rearranged Rearranged := by
  rintro v w ⟨reordered, distinct⟩
  refine ⟨reordered.kind_eq, ?_⟩
  cases reordered with
  | array elements => exact .some ⟨.array elements, distinct⟩
  | null | boolean | number | string | object => exact .none

/-- Neither arrays nor objects are accepted. -/
structure OfScalars (c : Coercion α) : Prop where
  array : ∀ vs, c.read? (.array vs) = none
  object : ∀ ms, c.read? (.object ms) = none

theorem text_ofScalars : text.OfScalars :=
  ⟨fun _ => rfl, fun _ => rfl⟩

theorem integer_ofScalars : integer.OfScalars :=
  ⟨fun _ => rfl, fun _ => rfl⟩

theorem boolean_ofScalars : boolean.OfScalars :=
  ⟨fun _ => rfl, fun _ => rfl⟩

/-- A scalar has no members to be reordered. -/
theorem OfScalars.respects (h : c.OfScalars) : c.Respects Reordered Eq := by
  intro v w reordered
  refine ⟨reordered.kind_eq, ?_⟩
  have same : c.read? v = c.read? w := by
    cases reordered with
    | array => rw [h.array, h.array]
    | object => rw [h.object, h.object]
    | null | boolean | number | string => rfl
  rw [same]
  cases c.read? w with
  | none => exact .none
  | some a => exact .some rfl

end Coercion

namespace Value

variable {α : Type} {c : Coercion α} {v w : Value}

theorem Reordered.asA_eq (h : Reordered v w) (scalars : c.OfScalars) : v.asA c = w.asA c :=
  (asA_alike scalars.respects h).eq

theorem Rearranged.get_eq (h : Rearranged v w) (scalars : c.OfScalars) (key : String) :
    v.get c key = w.get c key :=
  (get_alike (fun related => scalars.respects related.reordered) (h.field?_alike key)).eq

theorem Rearranged.getOr_eq (h : Rearranged v w) (scalars : c.OfScalars) (key : String)
    (default : α) : v.getOr c key default = w.getOr c key default :=
  (getOr_alike (fun related => scalars.respects related.reordered) rfl (h.field?_alike key)).eq

end Value

end Json

end CloudImages
