import CloudImages.Proofs.Json.Series

set_option autoImplicit false

/-! # The trees that are read

`value_eq_ok_iff` says what one step of the tree reader can do. From it: in every tree that is read
the keys of each object are distinct and nothing nests deeper than the reader allows
(`distinctKeys_of_value`, `depth_le_of_value`), whatever the text. -/

namespace CloudImages.Json

namespace Reader

open Outcome

/-! ## One step -/

theorem head_eq_ok_iff {lexemes rest : List Lexeme} {found : Head} :
    head lexemes = .ok (found, rest) ↔
      ∃ first, lexemes = first :: rest ∧ headOf first = .ok found := by
  constructor
  · intro h
    cases lexemes with
    | nil => exact absurd h (by simp [head])
    | cons first tail =>
      obtain ⟨a, read, h₁⟩ := bind_eq_ok_iff.1 h
      obtain ⟨rfl, rfl⟩ := Prod.mk.inj (pure_eq_ok_iff.1 h₁)
      exact ⟨first, rfl, read⟩
  · intro h
    obtain ⟨first, rfl, read⟩ := h
    simp [head, read, bind, Except.bind, pure, Except.pure]

/-- The value of which a head tells everything. -/
def scalar? : Head → Option Value
  | .null => some .null
  | .boolean b => some (.boolean b)
  | .number n => some (.number n)
  | .string s => some (.string s)
  | .array | .object => none

/-- What the tree reader can do in one step, `depth` being how deep the value may nest. -/
inductive ValueRead : Nat → List Lexeme → Value → List Lexeme → Prop
  | scalar {depth first rest found v} (head : headOf first = .ok found)
      (whole : scalar? found = some v) : ValueRead depth (first :: rest) v rest
  | array {depth first left vs rest} (head : headOf first = .ok .array)
      (inner : elements (value depth) left = .ok (vs, rest)) :
      ValueRead (depth + 1) (first :: left) (.array vs) rest
  | object {depth first left ms rest} (head : headOf first = .ok .object)
      (inner : members (memberOf (value depth)) [] left = .ok (ms, rest)) :
      ValueRead (depth + 1) (first :: left) (.object ms) rest

theorem value_eq_ok_iff {depth : Nat} {lexemes rest : List Lexeme} {v : Value} :
    value depth lexemes = .ok (v, rest) ↔ ValueRead depth lexemes v rest := by
  constructor
  · intro h
    cases depth with
    | zero =>
      obtain ⟨⟨found, left⟩, begun, h₁⟩ := bind_eq_ok_iff.1 h
      obtain ⟨first, rfl, read⟩ := head_eq_ok_iff.1 begun
      -- no depth is left for an array or an object
      cases found
      case array | object => exact absurd h₁ (by simp)
      all_goals
        obtain ⟨rfl, rfl⟩ := Prod.mk.inj (pure_eq_ok_iff.1 h₁)
        exact ValueRead.scalar read rfl
    | succ depth =>
      obtain ⟨⟨found, left⟩, begun, h₁⟩ := bind_eq_ok_iff.1 h
      obtain ⟨first, rfl, read⟩ := head_eq_ok_iff.1 begun
      cases found
      case array =>
        obtain ⟨⟨vs, behind⟩, inner, h₂⟩ := bind_eq_ok_iff.1 h₁
        obtain ⟨rfl, rfl⟩ := Prod.mk.inj (pure_eq_ok_iff.1 h₂)
        exact ValueRead.array read inner
      case object =>
        obtain ⟨⟨ms, behind⟩, inner, h₂⟩ := bind_eq_ok_iff.1 h₁
        obtain ⟨rfl, rfl⟩ := Prod.mk.inj (pure_eq_ok_iff.1 h₂)
        exact ValueRead.object read inner
      all_goals
        obtain ⟨rfl, rfl⟩ := Prod.mk.inj (pure_eq_ok_iff.1 h₁)
        exact ValueRead.scalar read rfl
  · intro h
    cases h with
    | @scalar depth first _ found _ read whole =>
      cases found <;> simp only [scalar?, Option.some.injEq, reduceCtorEq] at whole <;>
        subst whole <;>
        cases depth <;>
        simp [value, valueAround, head, read, bind, Except.bind, pure, Except.pure]
    | array read inner =>
      simp [value, valueAround, head, read, inner, bind, Except.bind, pure, Except.pure]
    | object read inner =>
      simp [value, valueAround, head, read, inner, bind, Except.bind, pure, Except.pure]

/-- Behind an opening bracket are the elements of an array. -/
theorem elements_of_value {depth : Nat} {tail rest : List Lexeme} {v : Value}
    (h : value depth (.opening .square :: tail) = .ok (v, rest)) :
    ∃ inner vs, depth = inner + 1 ∧ v = .array vs ∧
      elements (value inner) tail = .ok (vs, rest) := by
  cases value_eq_ok_iff.1 h with
  | scalar head whole =>
    cases head
    exact absurd whole (by simp [scalar?])
  | array _ inner => exact ⟨_, _, rfl, rfl, inner⟩
  | object head => exact absurd head (by simp [headOf])

/-- Behind an opening brace are the members of an object. -/
theorem members_of_value {depth : Nat} {tail rest : List Lexeme} {v : Value}
    (h : value depth (.opening .curly :: tail) = .ok (v, rest)) :
    ∃ inner ms, depth = inner + 1 ∧ v = .object ms ∧
      members (memberOf (value inner)) [] tail = .ok (ms, rest) := by
  cases value_eq_ok_iff.1 h with
  | scalar head whole =>
    cases head
    exact absurd whole (by simp [scalar?])
  | array head => exact absurd head (by simp [headOf])
  | object _ inner => exact ⟨_, _, rfl, rfl, inner⟩

theorem memberOf_eq_ok_iff {inner : Reader Value} {before : Members Value} {name : String}
    {read : Reader (Members Value)} :
    memberOf inner before name = .ok read ↔ read = giving (before.put name) inner := by
  constructor
  · intro h
    exact (Except.ok.inj h).symm
  · rintro rfl
    rfl

theorem memberRead_memberOf_iff {inner : Reader Value} {before after : Members Value}
    {lexemes rest : List Lexeme} :
    MemberRead (memberOf inner) before lexemes after rest ↔
      ∃ units ending name body v, lexemes = .string units ending :: .colon :: body ∧
        stringOf units ending = .ok name ∧ inner body = .ok (v, rest) ∧
        after = before.put name v := by
  constructor
  · intro h
    obtain ⟨units, ending, name, read, body, rfl, decoded, chosen, h⟩ := h
    obtain rfl := memberOf_eq_ok_iff.1 chosen
    obtain ⟨v, valueRead, rfl⟩ := giving_eq_ok_iff.1 h
    exact ⟨units, ending, name, body, v, rfl, decoded, valueRead, rfl⟩
  · intro h
    obtain ⟨units, ending, name, body, v, rfl, decoded, valueRead, rfl⟩ := h
    exact ⟨units, ending, name, _, body, rfl, decoded, memberOf_eq_ok_iff.2 rfl,
      giving_eq_ok_iff.2 ⟨v, valueRead, rfl⟩⟩

/-- A whole text is read when nothing is left behind what is read from its lexemes. -/
theorem whole_eq_ok_iff {α : Type} {reader : Reader α} {text : String} {a : α} :
    whole reader text = .ok a ↔ reader (Lexeme.scan text.toList) = .ok (a, []) := by
  constructor
  · intro h
    obtain ⟨⟨found, rest⟩, read, h₁⟩ := bind_eq_ok_iff.1 h
    dsimp only at h₁
    split at h₁
    · next none =>
      obtain rfl := pure_eq_ok_iff.1 h₁
      rwa [List.isEmpty_iff.1 none] at read
    · exact absurd h₁ (by simp)
  · intro read
    exact bind_eq_ok_iff.2 ⟨_, read, rfl⟩

/-! ## Every step takes a lexeme -/

theorem memberOf_shrinks {inner : Reader Value} (shrinks : Shrinks inner) :
    ShrinksMembers (memberOf inner) := by
  intro before name read chosen
  obtain rfl := memberOf_eq_ok_iff.1 chosen
  exact giving_shrinks shrinks (before.put name)

theorem value_shrinks (depth : Nat) : Shrinks (value depth) := by
  -- by the depth that is left, not by the value: the loops are used on a reader that shrinks
  induction depth with
  | zero =>
    intro lexemes v rest h
    cases value_eq_ok_iff.1 h with
    | scalar => simp
  | succ depth ih =>
    intro lexemes v rest h
    cases value_eq_ok_iff.1 h with
    | scalar => simp
    | array _ inner =>
      have := elements_shrinks ih inner
      simp only [List.length_cons]
      omega
    | object _ inner =>
      have := members_shrinks (memberOf_shrinks ih) [] inner
      simp only [List.length_cons]
      omega

/-! ## What holds of every tree that is read -/

variable {α σ : Type}

/-- What holds of every element that is read holds of all elements of a series. -/
theorem Series.forall_mem {element : Reader α} {P : α → Prop}
    (each : ∀ {lexemes a rest}, element lexemes = .ok (a, rest) → P a)
    {lexemes rest : List Lexeme} {as : List α} (h : Series element lexemes as rest) :
    ∀ a ∈ as, P a := by
  induction h with
  | last read => exact List.forall_mem_singleton.2 (each read)
  | next read _ _ ih => exact List.forall_mem_cons.2 ⟨each read, ih⟩

/-- What every member keeps is kept by a series of members. -/
theorem MemberSeries.invariant {member : σ → String → Except Fault (Reader σ)} {I : σ → Prop}
    (step : ∀ {state lexemes state' rest}, I state →
      MemberRead member state lexemes state' rest → I state')
    {state state' : σ} {lexemes rest : List Lexeme}
    (h : MemberSeries member state lexemes state' rest) (start : I state) : I state' := by
  induction h with
  | last read => exact step start read
  | next read _ _ ih => exact ih (step start read)

/-- What holds of the scalars, and of an array or an object if it holds of the values in it and the
keys are distinct, holds of every tree that is read; `P` may speak of the depth that is left. -/
theorem forall_of_value {P : Nat → Value → Prop}
    (scalar : ∀ {depth found v}, scalar? found = some v → P depth v)
    (array : ∀ {depth vs}, (∀ v ∈ vs, P depth v) → P (depth + 1) (.array vs))
    (object : ∀ {depth ms}, Members.Distinct ms → (∀ m ∈ ms, P depth m.2) →
      P (depth + 1) (.object ms))
    {depth : Nat} {lexemes rest : List Lexeme} {v : Value}
    (h : value depth lexemes = .ok (v, rest)) : P depth v := by
  induction depth generalizing lexemes v rest with
  | zero =>
    cases value_eq_ok_iff.1 h with
    | scalar _ whole => exact scalar whole
  | succ depth ih =>
    cases value_eq_ok_iff.1 h with
    | scalar _ whole => exact scalar whole
    | array _ inner =>
      rcases (elements_eq_ok_iff (value_shrinks depth)).1 inner with ⟨rfl, -⟩ | ⟨-, series⟩
      · exact array fun v there => absurd there List.not_mem_nil
      · exact array (series.forall_mem ih)
    | @object _ _ left ms _ _ inner =>
      -- the invariant of the loop over members: keys are distinct, values are as wanted
      have kept : Members.Distinct ms ∧ ∀ m ∈ ms, P depth m.2 := by
        have empty : Members.Distinct ([] : Members Value) ∧
            ∀ m ∈ ([] : Members Value), P depth m.2 :=
          ⟨List.nodup_nil, fun m there => absurd there List.not_mem_nil⟩
        rcases (members_eq_ok_iff (memberOf_shrinks (value_shrinks depth))).1 inner with
          ⟨rfl, -⟩ | ⟨-, series⟩
        · exact empty
        · refine series.invariant (I := fun ms => Members.Distinct ms ∧ ∀ m ∈ ms, P depth m.2)
            ?_ empty
          rintro before lexemes after rest ⟨distinct, all⟩ read
          obtain ⟨units, ending, name, body, v, -, -, valueRead, rfl⟩ :=
            memberRead_memberOf_iff.1 read
          refine ⟨Members.put_names_nodup name v distinct, fun m there => ?_⟩
          rcases Members.eq_or_mem_of_mem_put there with rfl | old
          · exact ih valueRead
          · exact all m old
      exact object kept.1 kept.2

theorem distinctKeys_of_value {depth : Nat} {lexemes rest : List Lexeme} {v : Value}
    (h : value depth lexemes = .ok (v, rest)) : v.DistinctKeys := by
  refine forall_of_value (P := fun _ v => v.DistinctKeys) ?_ ?_ ?_ h
  · intro _ found v whole
    cases found <;> cases whole <;> trivial
  · exact fun all => Value.distinctKeys_array_iff.2 all
  · exact fun distinct all => Value.distinctKeys_object_iff.2 ⟨distinct, all⟩

theorem depth_le_of_value {depth : Nat} {lexemes rest : List Lexeme} {v : Value}
    (h : value depth lexemes = .ok (v, rest)) : v.depth ≤ depth := by
  refine forall_of_value (P := fun depth v => v.depth ≤ depth) ?_ ?_ ?_ h
  · intro depth found v whole
    cases found <;> cases whole <;> exact Nat.zero_le depth
  · exact fun all => Value.depth_array_le_iff.2 all
  · exact fun _ all => Value.depth_object_le_iff.2 all

end Reader

end CloudImages.Json
