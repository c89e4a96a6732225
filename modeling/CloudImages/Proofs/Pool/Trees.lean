import CloudImages.Json.Value
import CloudImages.Pool.Reader
import Mathlib.Data.List.Forall2

set_option autoImplicit false

/-! # Trees that are lists of assignments

Which values stand for a pool, which for an assignment and which for a list of assignments, told by
the values alone. A value stands for one pool, assignment or list at most. -/

namespace CloudImages.PoolAssignment

open Json

/-- What pool a value stands for: null for none, an integer of a signed word for the pool of that
number. -/
inductive IsPool : Value → Option Int64 → Prop
  | none : IsPool .null none
  | some {n : Integer} {pool : Int64} (same : n.val = pool.toInt) :
      IsPool (.number (.integer n)) (some pool)

/-- What assignment a value stands for: an object with a profile and perhaps a pool, its other
members of any kind, or an array of a profile and perhaps a pool. -/
inductive Describes : Value → PoolAssignment → Prop
  | object {members : Members Value} {a : PoolAssignment}
      (profile : members.lookup profileKey = some (.string a.profile))
      (pool : members.lookup poolKey = none ∧ a.pool = none ∨
        ∃ v, members.lookup poolKey = some v ∧ IsPool v a.pool) :
      Describes (.object members) a
  | single {a : PoolAssignment} (pool : a.pool = none) : Describes (.array [.string a.profile]) a
  | pair {a : PoolAssignment} {v : Value} (pool : IsPool v a.pool) :
      Describes (.array [.string a.profile, v]) a

/-- The value is an array whose elements stand for the assignments, one by one. -/
def IsPoolList (v : Value) (assignments : List PoolAssignment) : Prop :=
  ∃ elements, v = .array elements ∧ List.Forall₂ Describes elements assignments

theorem isPool_ofInt64? (pool : Option Int64) : IsPool (.ofInt64? pool) pool := by
  cases pool with
  | none => exact IsPool.none
  | some pool => exact IsPool.some rfl

/-! ## What a value stands for is settled -/

theorem isPool_unique {v : Value} {pool pool' : Option Int64} (h : IsPool v pool)
    (h' : IsPool v pool') : pool = pool' := by
  cases h with
  | none => cases h'; rfl
  | some same =>
    cases h' with
    | some same' => exact congrArg some (Int64.toInt_inj.1 (same.symm.trans same'))

theorem eq_of_profile_of_pool {a a' : PoolAssignment} (profile : a.profile = a'.profile)
    (pool : a.pool = a'.pool) : a = a' := by
  cases a
  cases a'
  exact congrArg₂ PoolAssignment.mk profile pool

theorem describes_unique {v : Value} {a a' : PoolAssignment} (h : Describes v a)
    (h' : Describes v a') : a = a' := by
  generalize same : v = w at h'
  cases h with
  | object profile pool =>
    cases h' with
    | single | pair => exact absurd same (by simp)
    | object profile' pool' =>
      cases same
      refine eq_of_profile_of_pool
        (Value.string.inj (Option.some.inj (profile.symm.trans profile'))) ?_
      rcases pool with ⟨absent, none⟩ | ⟨v, there, isPool⟩ <;>
        rcases pool' with ⟨absent', none'⟩ | ⟨v', there', isPool'⟩
      · rw [none, none']
      · exact absurd (absent.symm.trans there') (by simp)
      · exact absurd (absent'.symm.trans there) (by simp)
      · obtain rfl := Option.some.inj (there.symm.trans there')
        exact isPool_unique isPool isPool'
  | single none =>
    cases h' with
    | object | pair => exact absurd same (by simp)
    | single none' =>
      exact eq_of_profile_of_pool (by simpa using same) (none.trans none'.symm)
  | pair isPool =>
    cases h' with
    | object | single => exact absurd same (by simp)
    | pair isPool' =>
      simp only [Value.array.injEq, List.cons.injEq, Value.string.injEq, and_true] at same
      obtain ⟨profile, rfl⟩ := same
      exact eq_of_profile_of_pool profile (isPool_unique isPool isPool')

theorem isPoolList_unique {v : Value} {assignments assignments' : List PoolAssignment}
    (h : IsPoolList v assignments) (h' : IsPoolList v assignments') :
    assignments = assignments' := by
  obtain ⟨vs, rfl, described⟩ := h
  obtain ⟨_, same, described'⟩ := h'
  cases same
  have unique : Relator.RightUnique Describes := fun _ _ _ => describes_unique
  exact List.right_unique_forall₂' unique described described'

end CloudImages.PoolAssignment
