set_option autoImplicit false

/-! # Steps that may fail

When a chain of steps succeeds, each step of it has. When it fails, it fails as the earliest of them
does that fails at all (`Earliest`). Two chains whose steps go the same way one by one go the same
way as a whole (`Alike`). -/

namespace CloudImages.Outcome

variable {ε α β : Type}

theorem bind_eq_ok_iff {x : Except ε α} {f : α → Except ε β} {b : β} :
    x >>= f = .ok b ↔ ∃ a, x = .ok a ∧ f a = .ok b := by
  cases x with
  | error e => simp [bind, Except.bind]
  | ok a => simp [bind, Except.bind]

theorem pure_eq_ok_iff {a b : α} : (pure a : Except ε α) = .ok b ↔ a = b := by
  simp [pure, Except.pure]

theorem map_eq_ok_iff {x : Except ε α} {f : α → β} {b : β} :
    x.map f = .ok b ↔ ∃ a, x = .ok a ∧ f a = b := by
  cases x <;> simp [Except.map]

theorem bind_eq_error_iff {x : Except ε α} {f : α → Except ε β} {e : ε} :
    x >>= f = .error e ↔ x = .error e ∨ ∃ a, x = .ok a ∧ f a = .error e := by
  cases x with
  | error e' => simp [bind, Except.bind]
  | ok a => simp [bind, Except.bind]

theorem exists_ok_of_isSome {x : Except ε α} (h : x.toOption.isSome) : ∃ a, x = .ok a := by
  cases x with
  | error e => exact absurd h (by simp [Except.toOption])
  | ok a => exact ⟨a, rfl⟩

/-- A check of every value in a list succeeds when each of them does. -/
theorem forM_eq_ok_iff {check : α → Except ε Unit} {as : List α} :
    as.forM check = .ok () ↔ ∀ a ∈ as, check a = .ok () := by
  induction as with
  | nil => simp [pure, Except.pure]
  | cons a rest ih =>
    change (check a >>= fun _ => rest.forM check) = .ok () ↔ _
    rw [bind_eq_ok_iff, List.forall_mem_cons, ← ih]
    exact ⟨fun ⟨_, first, others⟩ => ⟨first, others⟩,
      fun ⟨first, others⟩ => ⟨(), first, others⟩⟩

/-! ## The earliest failure -/

/-- The first of some things that can fail at all fails with `e`. -/
def Earliest (Fails : α → ε → Prop) (as : List α) (e : ε) : Prop :=
  ∃ before a after, as = before ++ a :: after ∧ (∀ b ∈ before, ∀ e', ¬ Fails b e') ∧ Fails a e

variable {Fails : α → ε → Prop} {a : α} {as : List α} {e : ε}

theorem not_earliest_nil : ¬ Earliest Fails [] e := by
  rintro ⟨before, a, after, split, -⟩
  exact absurd split (by simp)

theorem earliest_cons_iff :
    Earliest Fails (a :: as) e ↔ Fails a e ∨ (∀ e', ¬ Fails a e') ∧ Earliest Fails as e := by
  constructor
  · rintro ⟨before, b, after, split, none, fails⟩
    cases before with
    | nil =>
      cases split
      exact Or.inl fails
    | cons c before =>
      cases split
      obtain ⟨first, others⟩ := List.forall_mem_cons.1 none
      exact Or.inr ⟨first, before, b, after, rfl, others, fails⟩
  · rintro (fails | ⟨first, before, b, after, rfl, others, fails⟩)
    · exact ⟨[], a, as, rfl, List.forall_mem_nil _, fails⟩
    · exact ⟨a :: before, b, after, rfl, List.forall_mem_cons.2 ⟨first, others⟩, fails⟩

theorem earliest_singleton_iff : Earliest Fails [a] e ↔ Fails a e := by
  simp [earliest_cons_iff, not_earliest_nil]

theorem earliest_append_iff {bs : List α} : Earliest Fails (as ++ bs) e ↔
    Earliest Fails as e ∨ (∀ e', ¬ Earliest Fails as e') ∧ Earliest Fails bs e := by
  induction as with
  | nil => simp [not_earliest_nil]
  | cons a rest ih =>
    simp only [List.cons_append, earliest_cons_iff, ih, not_or, not_and]
    constructor
    · rintro (fails | ⟨first, fails | ⟨rest, fails⟩⟩)
      · exact Or.inl (Or.inl fails)
      · exact Or.inl (Or.inr ⟨first, fails⟩)
      · exact Or.inr ⟨fun e' => ⟨first e', fun _ => rest e'⟩, fails⟩
    · rintro ((fails | ⟨first, fails⟩) | ⟨rest, fails⟩)
      · exact Or.inl fails
      · exact Or.inr ⟨first, Or.inl fails⟩
      · have first : ∀ e', ¬ Fails a e' := fun e' => (rest e').1
        exact Or.inr ⟨first, Or.inr ⟨fun e' => (rest e').2 first, fails⟩⟩

theorem earliest_map_iff {γ : Type} {g : γ → α} {Fails' : γ → ε → Prop}
    (same : ∀ c e, Fails (g c) e ↔ Fails' c e) {cs : List γ} :
    Earliest Fails (cs.map g) e ↔ Earliest Fails' cs e := by
  induction cs with
  | nil => exact iff_of_false not_earliest_nil not_earliest_nil
  | cons c rest ih => simp only [List.map_cons, earliest_cons_iff, same, ih]

/-- A step that fails as the earliest of some things does, with a chain behind it that fails as the
earliest of some others, fails as the earliest of them all. -/
theorem bind_eq_error_iff_earliest {x : Except ε β} {γ : Type} {f : β → Except ε γ}
    {bs : List α} (first : ∀ {e}, x = .error e ↔ Earliest Fails as e)
    (others : ∀ b, x = .ok b → (f b = .error e ↔ Earliest Fails bs e)) :
    x >>= f = .error e ↔ Earliest Fails (as ++ bs) e := by
  rw [bind_eq_error_iff, earliest_append_iff, first]
  refine or_congr_right ?_
  cases x with
  | error e' =>
    have fails := first.1 rfl
    exact iff_of_false (by simp) fun h => h.1 e' fails
  | ok b =>
    have holds : ∀ e', ¬ Earliest Fails as e' := fun e' fails => absurd (first.2 fails) (by simp)
    simp only [Except.ok.injEq, exists_eq_left', holds, not_false_eq_true, implies_true, true_and]
    exact others b rfl

/-- A test that fails as the first of some things does, with a chain behind it. -/
theorem ite_eq_error_iff_earliest {c : Prop} [Decidable c] {e' : ε} {x : Except ε β}
    (first : ∀ e, Fails a e ↔ c ∧ e' = e) (others : ¬ c → (x = .error e ↔ Earliest Fails as e)) :
    (if c then .error e' else x) = .error e ↔ Earliest Fails (a :: as) e := by
  rw [earliest_cons_iff]
  split
  · next holds => simp [first, holds]
  · next fails => simp [first, fails, others fails]

/-- A check of every value in a list fails as the first value does that is bad. -/
theorem forM_eq_error_iff {check : α → Except ε Unit}
    (each : ∀ a e, check a = .error e ↔ Fails a e) :
    as.forM check = .error e ↔ Earliest Fails as e := by
  induction as with
  | nil => exact iff_of_false (by simp [pure, Except.pure]) not_earliest_nil
  | cons a rest ih =>
    have first : ∀ {e}, check a = .error e ↔ Earliest Fails [a] e :=
      (each a _).trans earliest_singleton_iff.symm
    exact bind_eq_error_iff_earliest first fun _ _ => ih

/-! ## Two chains side by side -/

/-- Two outcomes go the same way: both are errors, which `E` relates, or both are results, which `R`
relates. -/
inductive Alike {ε' : Type} (E : ε → ε' → Prop) (R : α → β → Prop) :
    Except ε α → Except ε' β → Prop where
  | error {e : ε} {e' : ε'} (related : E e e') : Alike E R (.error e) (.error e')
  | ok {a : α} {b : β} (related : R a b) : Alike E R (.ok a) (.ok b)

namespace Alike

variable {ε' γ δ : Type} {E : ε → ε' → Prop} {R : α → β → Prop} {x : Except ε α} {y : Except ε' β}

/-- An outcome goes the same way as itself. -/
theorem refl {E : ε → ε → Prop} (same : ∀ e, E e e) (x : Except ε α) : Alike E Eq x x := by
  cases x with
  | error e => exact .error (same e)
  | ok a => exact .ok rfl

theorem eq {x y : Except ε α} (h : Alike Eq Eq x y) : x = y := by
  cases h with
  | error same => rw [same]
  | ok same => rw [same]

theorem mono {E' : ε → ε' → Prop} {R' : α → β → Prop} (errors : ∀ e e', E e e' → E' e e')
    (results : ∀ a b, R a b → R' a b) (h : Alike E R x y) : Alike E' R' x y := by
  cases h with
  | error related => exact .error (errors _ _ related)
  | ok related => exact .ok (results _ _ related)

/-- Errors that are equal go together wherever each is its own partner. -/
theorem of_eq_errors {E : ε → ε → Prop} (same : ∀ e, E e e) {x : Except ε α} {y : Except ε β}
    (h : Alike Eq R x y) : Alike E R x y := by
  refine h.mono (fun e _ eq => ?_) fun _ _ related => related
  rw [← eq]
  exact same e

theorem imp {R' : α → β → Prop} (results : ∀ a b, R a b → R' a b) (h : Alike E R x y) :
    Alike E R' x y :=
  h.mono (fun _ _ related => related) results

/-- Steps that go the same way, with chains behind them that do so for results that are related. -/
theorem bind {S : γ → δ → Prop} {f : α → Except ε γ} {g : β → Except ε' δ} (first : Alike E R x y)
    (next : ∀ a b, x = .ok a → y = .ok b → R a b → Alike E S (f a) (g b)) :
    Alike E S (x >>= f) (y >>= g) := by
  cases first with
  | error related => exact .error related
  | ok related => exact next _ _ rfl rfl related

end Alike

end CloudImages.Outcome
