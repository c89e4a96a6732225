import CloudImages.Proofs.Pool.Agreement

set_option autoImplicit false

/-! # Written assignments are read back

Assignments are written as an array of objects, each with a profile and with a pool or null. That is
a list of assignments for both readers, so the one that builds no tree reads the same assignments
back (`ofText_render_and_parse_render`): in the same order, repeated profiles and all. -/

namespace CloudImages.PoolAssignment

open Json

theorem describes_toValue (a : PoolAssignment) : Describes a.toValue a :=
  .object rfl (Or.inr ⟨_, rfl, isPool_ofInt64? a.pool⟩)

theorem isPoolList_toValue (assignments : List PoolAssignment) :
    IsPoolList (.array (assignments.map toValue)) assignments := by
  refine ⟨_, rfl, ?_⟩
  rw [List.forall₂_map_left_iff, List.forall₂_same]
  exact fun a _ => describes_toValue a

theorem writable_toValue (a : PoolAssignment) : a.toValue.Writable 1 := by
  simp [toValue, Value.Writable.object_iff, Value.Writable.string, Value.Writable.ofInt64?,
    Members.Distinct, Members.names, poolKey_ne_profileKey.symm]

theorem writable_array_toValue (assignments : List PoolAssignment) :
    (Value.array (assignments.map toValue)).Writable 2 := by
  rw [Value.Writable.array_iff]
  intro v there
  obtain ⟨a, -, rfl⟩ := List.mem_map.1 there
  exact a.writable_toValue

/-- The text of assignments is read as just these assignments, and as the array of an object for
each of them: with its profile, and with its pool or null. -/
theorem ofText_render_and_parse_render (assignments : List PoolAssignment) :
    ofText (render assignments) = .ok assignments ∧
      Value.parse (render assignments) = .ok (.array (assignments.map fun a =>
        .object [("id", .string a.profile), ("agentPoolId", .ofInt64? a.pool)])) := by
  have writable := (writable_array_toValue assignments).mono (by decide : 2 ≤ depthLimit)
  exact ⟨ofText_render_of_isPoolList writable (isPoolList_toValue assignments),
    Value.parse_render writable⟩

end CloudImages.PoolAssignment
