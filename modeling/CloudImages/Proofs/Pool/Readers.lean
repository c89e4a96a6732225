import CloudImages.Proofs.Json.Skipping
import CloudImages.Proofs.Pool.Trees

set_option autoImplicit false

/-! # What the readers of assignments take

For each reader of assignments, which lexemes it takes and what it gives: scalars
(`ReadsScalar`), an assignment in a list (`ListRead`), the members of an assignment in an object
(`MemberReader`). Nothing is said yet of what the tree reader reads there. -/

namespace CloudImages.PoolAssignment

open Json Json.Reader Outcome

variable {α : Type} {lexemes rest : List Lexeme} {draft : Draft}

/-! ## Scalars -/

/-- The reader takes a scalar, and gives what `P` relates to it. -/
def ReadsScalar (reader : Reader α) (P : Value → α → Prop) : Prop :=
  ∀ {lexemes a rest}, reader lexemes = .ok (a, rest) ↔
    ∃ first found v, lexemes = first :: rest ∧ headOf first = .ok found ∧
      scalar? found = some v ∧ P v a

theorem ReadsScalar.shrinks {reader : Reader α} {P : Value → α → Prop}
    (reads : ReadsScalar reader P) : Shrinks reader := by
  intro lexemes a rest h
  obtain ⟨first, _, _, rfl, -⟩ := reads.1 h
  exact Nat.lt_succ_self _

theorem readsScalar_stringReader : ReadsScalar stringReader fun v s => v = .string s := by
  intro lexemes s rest
  constructor
  · intro h
    obtain ⟨⟨found, left⟩, begun, h₁⟩ := bind_eq_ok_iff.1 h
    obtain ⟨first, rfl, read⟩ := head_eq_ok_iff.1 begun
    cases found
    case string s' =>
      obtain ⟨rfl, rfl⟩ := Prod.mk.inj (pure_eq_ok_iff.1 h₁)
      exact ⟨first, _, _, rfl, read, rfl, rfl⟩
    all_goals exact absurd h₁ (by simp)
  · rintro ⟨first, found, v, rfl, read, whole, rfl⟩
    cases found <;> cases whole
    exact bind_eq_ok_iff.2 ⟨_, head_eq_ok_iff.2 ⟨first, rfl, read⟩, rfl⟩

theorem poolOfNumber_eq_ok_iff {n : Number} {pool : Int64} :
    poolOfNumber n = .ok pool ↔ IsPool (.number n) (some pool) := by
  cases n with
  | double x =>
    constructor
    · exact fun h => absurd h (by simp [poolOfNumber])
    · rintro ⟨⟩
  | integer i =>
    constructor
    · intro h
      rw [poolOfNumber] at h
      split at h
      · next id fits =>
        cases h
        exact IsPool.some (Text.toInt_of_int64? fits).symm
      · exact absurd h (by simp)
    · rintro ⟨⟩
      next same => rw [poolOfNumber, same, Text.int64?_toInt]

theorem readsScalar_poolReader : ReadsScalar poolReader IsPool := by
  intro lexemes pool rest
  constructor
  · intro h
    obtain ⟨⟨found, left⟩, begun, h₁⟩ := bind_eq_ok_iff.1 h
    obtain ⟨first, rfl, read⟩ := head_eq_ok_iff.1 begun
    cases found
    case null =>
      obtain ⟨rfl, rfl⟩ := Prod.mk.inj (pure_eq_ok_iff.1 h₁)
      exact ⟨first, _, _, rfl, read, rfl, IsPool.none⟩
    case number n =>
      obtain ⟨id, fits, h₂⟩ := bind_eq_ok_iff.1 h₁
      obtain ⟨rfl, rfl⟩ := Prod.mk.inj (pure_eq_ok_iff.1 h₂)
      exact ⟨first, _, _, rfl, read, rfl, poolOfNumber_eq_ok_iff.1 fits⟩
    all_goals exact absurd h₁ (by simp)
  · rintro ⟨first, found, v, rfl, read, whole, isPool⟩
    refine bind_eq_ok_iff.2 ⟨_, head_eq_ok_iff.2 ⟨first, rfl, read⟩, ?_⟩
    cases isPool with
    | none =>
      cases found <;> cases whole
      rfl
    | some same =>
      cases found <;> cases whole
      exact bind_eq_ok_iff.2 ⟨_, poolOfNumber_eq_ok_iff.2 (IsPool.some same), rfl⟩

/-! ## An assignment as a list -/

theorem closeReader_eq_ok_iff :
    closeReader lexemes = .ok ((), rest) ↔ lexemes = .closing .square :: rest := by
  constructor
  · intro h
    unfold closeReader at h
    split at h
    case h_2 => cases h; rfl
    all_goals exact absurd h (by simp)
  · rintro rfl
    rfl

/-- What stands behind the opening bracket of an assignment: a profile and the closing bracket, or a
profile, a comma, a pool and the closing bracket. -/
inductive ListRead : List Lexeme → PoolAssignment → List Lexeme → Prop
  | single {first tail a rest} (opens : first ≠ .closing .square)
      (profile : stringReader (first :: tail) = .ok (a.profile, .closing .square :: rest))
      (none : a.pool = none) : ListRead (first :: tail) a rest
  | pair {first tail next more a rest} (opens : first ≠ .closing .square)
      (profile : stringReader (first :: tail) = .ok (a.profile, .comma :: next :: more))
      (opens' : next ≠ .closing .square)
      (pool : poolReader (next :: more) = .ok (a.pool, .closing .square :: rest)) :
      ListRead (first :: tail) a rest

theorem listReader_eq_ok_iff {a : PoolAssignment} :
    listReader lexemes = .ok (a, rest) ↔ ListRead lexemes a rest := by
  constructor
  · intro h
    obtain ⟨⟨any, left⟩, opened, h₁⟩ := bind_eq_ok_iff.1 h
    rcases inside_eq_ok_iff.1 opened with ⟨rfl, -⟩ | ⟨rfl, rfl, first, tail, rfl, opens⟩
    · exact absurd h₁ (by simp)
    · obtain ⟨⟨profile, behind⟩, read, h₂⟩ := bind_eq_ok_iff.1 h₁
      obtain ⟨⟨more, left⟩, between, h₃⟩ := bind_eq_ok_iff.1 h₂
      rcases another_eq_ok_iff.1 between with ⟨rfl, rfl⟩ | ⟨rfl, rfl, next, tail', rfl, opens'⟩
      · obtain ⟨rfl, rfl⟩ := Prod.mk.inj (pure_eq_ok_iff.1 h₃)
        exact ListRead.single opens read rfl
      · obtain ⟨⟨pool, behind⟩, poolRead, h₄⟩ := bind_eq_ok_iff.1 h₃
        obtain ⟨⟨⟨⟩, left⟩, closed, h₅⟩ := bind_eq_ok_iff.1 h₄
        obtain rfl := closeReader_eq_ok_iff.1 closed
        obtain ⟨rfl, rfl⟩ := Prod.mk.inj (pure_eq_ok_iff.1 h₅)
        exact ListRead.pair opens read opens' poolRead
  · intro h
    cases h with
    | @single first tail _ _ opens profile none =>
      refine bind_eq_ok_iff.2 ⟨_, inside_of_ne opens tail, ?_⟩
      refine bind_eq_ok_iff.2 ⟨_, profile, ?_⟩
      refine bind_eq_ok_iff.2 ⟨_, another_closing .square rest, ?_⟩
      rw [← none]
      rfl
    | @pair first tail next more _ _ opens profile opens' pool =>
      refine bind_eq_ok_iff.2 ⟨_, inside_of_ne opens tail, ?_⟩
      refine bind_eq_ok_iff.2 ⟨_, profile, ?_⟩
      refine bind_eq_ok_iff.2 ⟨_, another_comma opens' more, ?_⟩
      refine bind_eq_ok_iff.2 ⟨_, pool, ?_⟩
      exact bind_eq_ok_iff.2 ⟨_, closeReader_eq_ok_iff.2 rfl, rfl⟩

theorem listReader_shrinks : Shrinks listReader := by
  intro lexemes a rest h
  cases listReader_eq_ok_iff.1 h with
  | single _ profile =>
    have taken := readsScalar_stringReader.shrinks profile
    simp only [List.length_cons] at taken ⊢
    omega
  | pair _ profile _ pool =>
    have taken := readsScalar_stringReader.shrinks profile
    have taken' := readsScalar_poolReader.shrinks pool
    simp only [List.length_cons] at taken taken' ⊢
    omega

/-! ## An assignment as an object -/

theorem poolKey_ne_profileKey : poolKey ≠ profileKey := by
  decide

/-- The readers for members. Profile and pool are read once; other members are skipped. -/
inductive MemberReader (draft : Draft) : String → Reader Draft → Prop
  | profile (new : draft.profile = none) : MemberReader draft profileKey
      (giving (fun profile => { draft with profile := some profile }) stringReader)
  | pool (new : draft.pool = none) : MemberReader draft poolKey
      (giving (fun pool => { draft with pool := some pool }) poolReader)
  | other {key : String} (notProfile : key ≠ profileKey) (notPool : key ≠ poolKey) :
      MemberReader draft key (giving (fun _ => draft) skip)

theorem member_eq_ok_iff {name : String} {read : Reader Draft} :
    member draft name = .ok read ↔ MemberReader draft name read := by
  constructor
  · intro chosen
    unfold member at chosen
    split at chosen
    · next isProfile =>
      split at chosen
      · exact absurd chosen (by simp)
      · next new =>
        cases chosen
        exact isProfile ▸ MemberReader.profile (Option.not_isSome_iff_eq_none.1 new)
    · next notProfile =>
      split at chosen
      · next isPoolKey =>
        split at chosen
        · exact absurd chosen (by simp)
        · next new =>
          cases chosen
          exact isPoolKey ▸ MemberReader.pool (Option.not_isSome_iff_eq_none.1 new)
      · next notPool =>
        cases chosen
        exact MemberReader.other notProfile notPool
  · intro h
    cases h with
    | profile new =>
      rw [member, if_pos rfl, new]
      rfl
    | pool new =>
      rw [member, if_neg poolKey_ne_profileKey, if_pos rfl, new]
      rfl
    | other notProfile notPool =>
      rw [member, if_neg notProfile, if_neg notPool]
      rfl

theorem member_shrinks : ShrinksMembers member := by
  intro draft name read chosen
  cases member_eq_ok_iff.1 chosen with
  | profile => exact giving_shrinks readsScalar_stringReader.shrinks _
  | pool => exact giving_shrinks readsScalar_poolReader.shrinks _
  | other => exact giving_shrinks skip_shrinks _

theorem finish_eq_ok_iff {a : PoolAssignment} :
    draft.finish = .ok a ↔ draft.profile = some a.profile ∧ a.pool = draft.pool.getD none := by
  rw [Draft.finish]
  split
  · next profile told =>
    rw [told, Except.ok.injEq, Option.some.injEq]
    constructor
    · rintro rfl
      exact ⟨rfl, rfl⟩
    · rintro ⟨same, pool⟩
      exact eq_of_profile_of_pool same pool.symm
  · next untold => simp [untold]

/-! ## Assignments -/

theorem reader_eq_ok_iff {a : PoolAssignment} : reader lexemes = .ok (a, rest) ↔
    ∃ first tail, lexemes = first :: tail ∧
      (headOf first = .ok .array ∧ listReader tail = .ok (a, rest) ∨
        headOf first = .ok .object ∧ ∃ draft, members member {} tail = .ok (draft, rest) ∧
          draft.finish = .ok a) := by
  constructor
  · intro h
    obtain ⟨⟨found, left⟩, begun, h₁⟩ := bind_eq_ok_iff.1 h
    obtain ⟨first, rfl, read⟩ := head_eq_ok_iff.1 begun
    cases found
    case array => exact ⟨first, left, rfl, Or.inl ⟨read, h₁⟩⟩
    case object =>
      obtain ⟨⟨draft, behind⟩, inner, h₂⟩ := bind_eq_ok_iff.1 h₁
      obtain ⟨a', finished, h₃⟩ := bind_eq_ok_iff.1 h₂
      obtain ⟨rfl, rfl⟩ := Prod.mk.inj (pure_eq_ok_iff.1 h₃)
      exact ⟨first, left, rfl, Or.inr ⟨read, draft, inner, finished⟩⟩
    all_goals exact absurd h₁ (by simp)
  · rintro ⟨first, tail, rfl, ⟨read, listed⟩ | ⟨read, draft, inner, finished⟩⟩
    · exact bind_eq_ok_iff.2 ⟨_, head_eq_ok_iff.2 ⟨first, rfl, read⟩, listed⟩
    · refine bind_eq_ok_iff.2 ⟨_, head_eq_ok_iff.2 ⟨first, rfl, read⟩, ?_⟩
      refine bind_eq_ok_iff.2 ⟨_, inner, ?_⟩
      exact bind_eq_ok_iff.2 ⟨_, finished, rfl⟩

theorem reader_shrinks : Shrinks reader := by
  intro lexemes a rest h
  obtain ⟨first, tail, rfl, ⟨-, listed⟩ | ⟨-, draft, inner, -⟩⟩ := reader_eq_ok_iff.1 h
  · exact Nat.lt_succ_of_lt (listReader_shrinks listed)
  · exact Nat.lt_succ_of_lt (members_shrinks member_shrinks {} inner)

theorem collectionReader_eq_ok_iff {assignments : List PoolAssignment} :
    collectionReader lexemes = .ok (assignments, rest) ↔
      ∃ tail, lexemes = .opening .square :: tail ∧
        elements reader tail = .ok (assignments, rest) := by
  constructor
  · intro h
    obtain ⟨⟨found, left⟩, begun, h₁⟩ := bind_eq_ok_iff.1 h
    obtain ⟨first, rfl, read⟩ := head_eq_ok_iff.1 begun
    cases found
    case array => exact ⟨left, by rw [headOf_eq_ofBracket_iff (b := .square) |>.1 read], h₁⟩
    all_goals exact absurd h₁ (by simp)
  · rintro ⟨tail, rfl, inner⟩
    exact bind_eq_ok_iff.2 ⟨_, head_eq_ok_iff.2 ⟨_, rfl, rfl⟩, inner⟩

end CloudImages.PoolAssignment
