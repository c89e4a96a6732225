set_option autoImplicit false

/-! # Ordered members

Pairs of a name and a value in the order in which the names were first put. Putting a name again
keeps its place and replaces its value, so the names stay distinct (`put_names_nodup`). Looking a
name up is core's `List.lookup`. -/

namespace CloudImages

/-- Named values in order. -/
abbrev Members (α : Type) := List (String × α)

namespace Members

variable {α β : Type}

/-- The names, in order. -/
def names (members : Members α) : List String :=
  members.map Prod.fst

/-- Gives `name` the value `value`: in its old place if it has one, else at the end. -/
def put (name : String) (value : α) : Members α → Members α
  | [] => [(name, value)]
  | (other, old) :: rest =>
    if other = name then (name, value) :: rest else (other, old) :: put name value rest

/-- The members that a list of pairs leaves when they are put one after the other. -/
def ofList (pairs : List (String × α)) : Members α :=
  pairs.foldl (fun members pair => members.put pair.1 pair.2) []

/-! ## Names -/

/-- No name occurs twice. -/
def Distinct (members : Members α) : Prop :=
  members.names.Nodup

instance (members : Members α) : Decidable members.Distinct :=
  inferInstanceAs (Decidable (List.Nodup _))

theorem put_names_of_mem {name : String} {members : Members α} (value : α)
    (h : name ∈ members.names) : (members.put name value).names = members.names := by
  induction members with
  | nil => simp [names] at h
  | cons pair rest ih =>
    obtain ⟨other, old⟩ := pair
    by_cases same : other = name
    · simp [put, names, same]
    · have later : name ∈ names rest := by
        simp only [names, List.map_cons, List.mem_cons] at h ⊢
        exact h.resolve_left fun hh => same hh.symm
      simp only [put, if_neg same, names, List.map_cons] at ih ⊢
      rw [ih later]

/-- A name that is not there yet goes to the end. -/
theorem put_of_not_mem {name : String} {members : Members α} (value : α)
    (h : name ∉ members.names) : members.put name value = members ++ [(name, value)] := by
  induction members with
  | nil => rfl
  | cons pair rest ih =>
    obtain ⟨other, old⟩ := pair
    simp only [names, List.map_cons, List.mem_cons, not_or] at h
    rw [put, if_neg fun same => h.1 same.symm, ih h.2, List.cons_append]

theorem put_names_nodup {members : Members α} (name : String) (value : α)
    (h : members.Distinct) : (members.put name value).Distinct := by
  by_cases there : name ∈ members.names
  · rw [Distinct, put_names_of_mem value there]
    exact h
  · have disjoint : ∀ other ∈ members.names, ∀ last ∈ [name], other ≠ last := by
      intro other hother last hlast same
      rw [List.mem_singleton] at hlast
      exact there (hlast ▸ same ▸ hother)
    rw [Distinct, put_of_not_mem value there, names, List.map_append]
    exact List.nodup_append.2 ⟨h, by simp, disjoint⟩

theorem ofList_distinct (pairs : List (String × α)) : (ofList pairs).Distinct := by
  have fold : ∀ members : Members α, members.Distinct →
      (pairs.foldl (fun members pair => members.put pair.1 pair.2) members).Distinct := by
    induction pairs with
    | nil => exact fun _ h => h
    | cons pair rest ih => exact fun members h => ih _ (put_names_nodup pair.1 pair.2 h)
  exact fold [] List.nodup_nil

/-- A member is the one that was put or was there before. -/
theorem eq_or_mem_of_mem_put {name : String} {value : α} {members : Members α} {m : String × α}
    (h : m ∈ members.put name value) : m = (name, value) ∨ m ∈ members := by
  induction members with
  | nil => exact Or.inl (List.mem_singleton.1 h)
  | cons pair rest ih =>
    obtain ⟨other, old⟩ := pair
    rw [put] at h
    split at h
    · rcases List.mem_cons.1 h with rfl | later
      · exact Or.inl rfl
      · exact Or.inr (List.mem_cons_of_mem _ later)
    · rcases List.mem_cons.1 h with rfl | later
      · exact Or.inr List.mem_cons_self
      · exact (ih later).imp_right (List.mem_cons_of_mem _)

/-- Members with distinct names are what is left when they are put one after the other. -/
theorem ofList_eq_self {members : Members α} (h : members.Distinct) : ofList members = members := by
  have fold : ∀ before : Members α, Distinct (before ++ members) →
      members.foldl (fun members pair => members.put pair.1 pair.2) before
        = before ++ members := by
    clear h
    induction members with
    | nil => exact fun before _ => (List.append_nil before).symm
    | cons pair rest ih =>
      intro before distinct
      have fresh : pair.1 ∉ names before := by
        rw [Distinct, names, List.map_append, List.nodup_append] at distinct
        exact fun there => distinct.2.2 _ there _ List.mem_cons_self rfl
      rw [List.foldl_cons, put_of_not_mem pair.2 fresh, ih _ (by simpa using distinct)]
      simp
  exact fold [] h

/-! ## Looking up -/

theorem lookup_put (name other : String) (value : α) (members : Members α) :
    (members.put name value).lookup other
      = if other = name then some value else members.lookup other := by
  induction members with
  | nil =>
    by_cases h : other = name
    · simp [put, h]
    · simp [put, List.lookup_cons, beq_false_of_ne h, h]
  | cons pair rest ih =>
    obtain ⟨first, old⟩ := pair
    by_cases same : first = name
    · subst same
      by_cases h : other = first
      · simp [put, h]
      · simp [put, List.lookup_cons, beq_false_of_ne h, h]
    · rw [put, if_neg same]
      by_cases h : other = first
      · subst h
        simp [same]
      · simp [List.lookup_cons, beq_false_of_ne h, ih]

/-- Nothing is found under a name that is not there. -/
theorem lookup_eq_none_of_not_mem {name : String} {members : Members α}
    (h : name ∉ members.names) : members.lookup name = none := by
  refine List.lookup_eq_none_iff.2 fun m there => ?_
  rw [bne_iff_ne]
  rintro rfl
  exact h (List.mem_map.2 ⟨m, there, rfl⟩)

/-- Under distinct names, what is found under a name is what stands there. -/
theorem lookup_eq_some_iff_mem {members : Members α} (h : members.Distinct) {name : String}
    {value : α} : members.lookup name = some value ↔ (name, value) ∈ members := by
  induction members with
  | nil => simp
  | cons pair rest ih =>
    obtain ⟨other, old⟩ := pair
    rw [Distinct, names, List.map_cons, List.nodup_cons] at h
    by_cases same : name = other
    · subst same
      have absent : (name, value) ∉ rest := fun there =>
        h.1 (List.mem_map.2 ⟨_, there, rfl⟩)
      simp [absent, eq_comm]
    · simp [List.lookup_cons, beq_false_of_ne same, ih h.2, same]

end Members

end CloudImages
