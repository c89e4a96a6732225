import CloudImages.Pool

set_option autoImplicit false

/-! # The first assignment

Which pool goes with a profile is told by the place where the assignments name the profile first
(`PoolAssignment.FirstPool`). That determines the pool, and it is the one that is resolved
(`PoolAssignment.firstPool_iff`). -/

namespace CloudImages.PoolAssignment

/-- The pool that goes with a profile, told by where the assignments name that profile first. -/
inductive FirstPool (profile : String) : Option (List PoolAssignment) → Option Int64 → Prop
  /-- There are no assignments at all. -/
  | unknown : FirstPool profile none none
  /-- No assignment is for the profile. -/
  | unmatched {assignments} (others : ∀ a ∈ assignments, a.profile ≠ profile) :
      FirstPool profile (some assignments) none
  /-- The first assignment for the profile counts, also if it has no pool. -/
  | matched {before a after} (others : ∀ b ∈ before, b.profile ≠ profile)
      (same : a.profile = profile) : FirstPool profile (some (before ++ a :: after)) a.pool

variable {profile : String} {assignments? : Option (List PoolAssignment)} {pool : Option Int64}

theorem firstPool_resolve (profile : String) (assignments? : Option (List PoolAssignment)) :
    FirstPool profile assignments? (resolve profile assignments?) := by
  cases assignments? with
  | none => exact FirstPool.unknown
  | some assignments =>
    rw [resolve, Option.bind_some]
    cases found : assignments.find? fun a => a.profile = profile with
    | none =>
      have others := List.find?_eq_none.1 found
      exact FirstPool.unmatched fun a there => by simpa using others a there
    | some a =>
      obtain ⟨same, before, after, rfl, others⟩ := List.find?_eq_some_iff_append.1 found
      exact FirstPool.matched (fun b there => by simpa using others b there) (by simpa using same)

/-- No other pool goes with a profile than the one that is resolved. -/
theorem FirstPool.eq_resolve (h : FirstPool profile assignments? pool) :
    pool = resolve profile assignments? := by
  have passed : ∀ {others : List PoolAssignment}, (∀ b ∈ others, b.profile ≠ profile) →
      others.find? (fun a => a.profile = profile) = none := by
    intro others none
    exact List.find?_eq_none.2 fun b there => by simpa using none b there
  cases h with
  | unknown => rfl
  | unmatched others => rw [resolve, Option.bind_some, passed others, Option.bind_none]
  | @matched before a after others same =>
    rw [resolve, Option.bind_some, List.find?_append, passed others, Option.none_or,
      List.find?_cons_of_pos (by simpa using same), Option.bind_some]

theorem firstPool_iff :
    FirstPool profile assignments? pool ↔ pool = resolve profile assignments? := by
  refine ⟨FirstPool.eq_resolve, fun same => ?_⟩
  rw [same]
  exact firstPool_resolve profile assignments?

end CloudImages.PoolAssignment
