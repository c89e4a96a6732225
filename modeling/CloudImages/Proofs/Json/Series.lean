import CloudImages.Json.Reader
import CloudImages.Proofs.Outcome

set_option autoImplicit false

/-! # What stands between brackets

The loops behind `Reader.elements` and `Reader.members` count down a bound. Here is what they read
said without one: a series of elements, or of members, with commas between them and the closing
bracket behind the last. A loop that succeeds has read a series (`series_of_elementsUpTo`,
`memberSeries_of_membersUpTo`), and a series is read by the loop when every step of it takes a
lexeme (`elementsUpTo_of_series`, `membersUpTo_of_memberSeries`). -/

namespace CloudImages.Json.Reader

open Outcome

variable {α β σ τ : Type}

/-- Whatever the reader reads, it takes at least one lexeme. -/
def Shrinks (reader : Reader α) : Prop :=
  ∀ {lexemes a rest}, reader lexemes = .ok (a, rest) → rest.length < lexemes.length

/-- The reader, with `f` of what it reads. -/
def giving (f : α → σ) (reader : Reader α) : Reader σ := fun lexemes => do
  let (a, lexemes) ← reader lexemes
  return (f a, lexemes)

theorem giving_eq_ok_iff {f : α → σ} {reader : Reader α} {lexemes rest : List Lexeme} {b : σ} :
    giving f reader lexemes = .ok (b, rest) ↔ ∃ a, reader lexemes = .ok (a, rest) ∧ b = f a := by
  constructor
  · intro h
    obtain ⟨⟨a, behind⟩, read, h₁⟩ := bind_eq_ok_iff.1 h
    obtain ⟨rfl, rfl⟩ := Prod.mk.inj (pure_eq_ok_iff.1 h₁)
    exact ⟨a, read, rfl⟩
  · rintro ⟨a, read, rfl⟩
    exact bind_eq_ok_iff.2 ⟨_, read, rfl⟩

theorem giving_shrinks {reader : Reader α} (shrinks : Shrinks reader) (f : α → σ) :
    Shrinks (giving f reader) := by
  intro lexemes b rest h
  obtain ⟨a, read, -⟩ := giving_eq_ok_iff.1 h
  exact shrinks read

/-! ## Brackets and commas -/

theorem inside_eq_ok_iff {b : Bracket} {lexemes rest : List Lexeme} {any : Bool} :
    inside b lexemes = .ok (any, rest) ↔
      any = false ∧ lexemes = .closing b :: rest ∨
      any = true ∧ lexemes = rest ∧ ∃ first tail, rest = first :: tail ∧ first ≠ .closing b := by
  cases lexemes with
  | nil =>
    constructor
    · exact fun h => absurd h (by simp [inside])
    · intro h
      rcases h with ⟨-, h⟩ | ⟨-, rfl, _, _, h, -⟩
      · exact absurd h (by simp)
      · exact absurd h (by simp)
  | cons first tail =>
    rw [inside]
    split
    · next closes =>
      subst closes
      constructor
      · intro h
        cases h
        exact Or.inl ⟨rfl, rfl⟩
      · intro h
        rcases h with ⟨rfl, h⟩ | ⟨-, rfl, _, _, h, opens⟩
        · cases h
          rfl
        · cases h
          exact absurd rfl opens
    · next opens =>
      constructor
      · intro h
        cases h
        exact Or.inr ⟨rfl, rfl, first, tail, rfl, opens⟩
      · intro h
        rcases h with ⟨-, h⟩ | ⟨rfl, rfl, -⟩
        · cases h
          exact absurd rfl opens
        · rfl

theorem another_eq_ok_iff {b : Bracket} {lexemes rest : List Lexeme} {more : Bool} :
    another b lexemes = .ok (more, rest) ↔
      more = false ∧ lexemes = .closing b :: rest ∨
      more = true ∧ lexemes = .comma :: rest ∧
        ∃ first tail, rest = first :: tail ∧ first ≠ .closing b := by
  constructor
  · intro h
    unfold another at h
    split at h
    · exact absurd h (by simp)
    · exact absurd h (by simp)
    · next next tail =>
      split at h
      · exact absurd h (by simp)
      · next opens =>
        cases h
        exact Or.inr ⟨rfl, rfl, next, tail, rfl, opens⟩
    · next other tail =>
      split at h
      · next closes =>
        cases h
        exact Or.inl ⟨rfl, closes ▸ rfl⟩
      · exact absurd h (by simp)
  · intro h
    rcases h with ⟨rfl, rfl⟩ | ⟨rfl, rfl, first, tail, rfl, opens⟩
    · exact another_closing b rest
    · exact another_comma opens tail

/-! ## Elements -/

/-- Elements with commas between them, and the closing bracket behind the last. -/
inductive Series (element : Reader α) : List Lexeme → List α → List Lexeme → Prop
  | last {lexemes a rest} (read : element lexemes = .ok (a, .closing .square :: rest)) :
      Series element lexemes [a] rest
  | next {lexemes a first tail as rest}
      (read : element lexemes = .ok (a, .comma :: first :: tail))
      (opens : first ≠ .closing .square) (others : Series element (first :: tail) as rest) :
      Series element lexemes (a :: as) rest

theorem series_of_elementsUpTo {element : Reader α} {bound : Nat} {lexemes rest : List Lexeme}
    {as : List α} (h : elementsUpTo element bound lexemes = .ok (as, rest)) :
    Series element lexemes as rest := by
  induction bound generalizing lexemes as with
  | zero => exact absurd h (by simp [elementsUpTo])
  | succ bound ih =>
    obtain ⟨⟨a, behind⟩, read, h₁⟩ := bind_eq_ok_iff.1 h
    obtain ⟨⟨more, left⟩, between, h₂⟩ := bind_eq_ok_iff.1 h₁
    rcases another_eq_ok_iff.1 between with ⟨rfl, rfl⟩ | ⟨rfl, rfl, first, tail, rfl, opens⟩
    · obtain ⟨rfl, rfl⟩ := Prod.mk.inj (pure_eq_ok_iff.1 h₂)
      exact Series.last read
    · obtain ⟨⟨others, behind⟩, found, h₃⟩ := bind_eq_ok_iff.1 h₂
      obtain ⟨rfl, rfl⟩ := Prod.mk.inj (pure_eq_ok_iff.1 h₃)
      exact Series.next read opens (ih found)

theorem elementsUpTo_of_series {element : Reader α} (shrinks : Shrinks element) {bound : Nat}
    {lexemes rest : List Lexeme} {as : List α} (h : Series element lexemes as rest)
    (enough : lexemes.length ≤ bound) : elementsUpTo element bound lexemes = .ok (as, rest) := by
  induction h generalizing bound with
  | @last lexemes a rest read =>
    -- an element takes a lexeme, so there is one and the bound is not used up
    have taken := shrinks read
    obtain ⟨bound, rfl⟩ := Nat.exists_eq_succ_of_ne_zero (n := bound) (by omega)
    simp [elementsUpTo, read, another_closing, bind, Except.bind, pure, Except.pure]
  | @next lexemes a first tail as rest read opens others ih =>
    have taken := shrinks read
    obtain ⟨bound, rfl⟩ := Nat.exists_eq_succ_of_ne_zero (n := bound) (by omega)
    have found : elementsUpTo element bound (first :: tail) = .ok (as, rest) := by
      refine ih ?_
      simp only [List.length_cons] at taken ⊢
      omega
    simp [elementsUpTo, read, another_comma opens, found, bind, Except.bind, pure, Except.pure]

/-- An array is empty or holds a series of elements. -/
theorem elements_eq_ok_iff {element : Reader α} (shrinks : Shrinks element)
    {lexemes rest : List Lexeme} {as : List α} :
    elements element lexemes = .ok (as, rest) ↔
      as = [] ∧ lexemes = .closing .square :: rest ∨
      (∃ first tail, lexemes = first :: tail ∧ first ≠ .closing .square) ∧
        Series element lexemes as rest := by
  constructor
  · intro h
    obtain ⟨⟨any, left⟩, opened, h⟩ := bind_eq_ok_iff.1 h
    rcases inside_eq_ok_iff.1 opened with ⟨rfl, rfl⟩ | ⟨rfl, rfl, start⟩
    · obtain ⟨rfl, rfl⟩ := Prod.mk.inj (pure_eq_ok_iff.1 h)
      exact Or.inl ⟨rfl, rfl⟩
    · exact Or.inr ⟨start, series_of_elementsUpTo h⟩
  · intro h
    rcases h with ⟨rfl, rfl⟩ | ⟨⟨first, tail, rfl, opens⟩, series⟩
    · simp [elements, inside_closing, bind, Except.bind, pure, Except.pure]
    · have read := elementsUpTo_of_series shrinks series (Nat.le_refl _)
      simpa [elements, inside_of_ne opens, bind, Except.bind] using read

/-- An array that does not end at once holds a series of elements. -/
theorem series_of_elements {element : Reader α} (shrinks : Shrinks element) {first : Lexeme}
    {tail rest : List Lexeme} {as : List α} (opens : first ≠ .closing .square)
    (h : elements element (first :: tail) = .ok (as, rest)) :
    Series element (first :: tail) as rest := by
  rcases (elements_eq_ok_iff shrinks).1 h with ⟨-, same⟩ | ⟨-, series⟩
  · exact absurd (List.cons.inj same).1 opens
  · exact series

/-- Two readers that both read an array both find it empty or both read a series. -/
theorem series_of_elements_of_elements {element : Reader α} {element' : Reader β}
    (shrinks : Shrinks element) (shrinks' : Shrinks element') {lexemes rest rest' : List Lexeme}
    {as : List α} {bs : List β} (h : elements element lexemes = .ok (as, rest))
    (h' : elements element' lexemes = .ok (bs, rest')) :
    as = [] ∧ bs = [] ∧ rest = rest' ∨
      Series element lexemes as rest ∧ Series element' lexemes bs rest' := by
  rcases (elements_eq_ok_iff shrinks).1 h with ⟨none, rfl⟩ | ⟨⟨_, _, rfl, opens⟩, series⟩ <;>
    rcases (elements_eq_ok_iff shrinks').1 h' with ⟨none', same⟩ | ⟨⟨_, _, same, opens'⟩, series'⟩
  · exact Or.inl ⟨none, none', (List.cons.inj same).2⟩
  · exact absurd (List.cons.inj same).1.symm opens'
  · exact absurd (List.cons.inj same).1 opens
  · exact Or.inr ⟨series, series'⟩

theorem Series.length_lt {element : Reader α} (shrinks : Shrinks element)
    {lexemes rest : List Lexeme} {as : List α} (h : Series element lexemes as rest) :
    rest.length < lexemes.length := by
  induction h with
  | last read =>
    have := shrinks read
    simp only [List.length_cons] at this
    omega
  | next read _ _ ih =>
    have := shrinks read
    simp only [List.length_cons] at this ih
    omega

theorem elements_shrinks {element : Reader α} (shrinks : Shrinks element) :
    Shrinks (elements element) := by
  intro lexemes as rest h
  rcases (elements_eq_ok_iff shrinks).1 h with ⟨-, rfl⟩ | ⟨-, series⟩
  · simp
  · exact series.length_lt shrinks

/-! ## Members -/

theorem key_eq_ok_iff {lexemes rest : List Lexeme} {name : String} :
    key lexemes = .ok (name, rest) ↔ ∃ units ending,
      lexemes = .string units ending :: rest ∧ stringOf units ending = .ok name := by
  constructor
  · intro h
    unfold key at h
    split at h
    · exact absurd h (by simp)
    · next units ending tail =>
      obtain ⟨found, decoded, h₁⟩ := bind_eq_ok_iff.1 h
      obtain ⟨rfl, rfl⟩ := Prod.mk.inj (pure_eq_ok_iff.1 h₁)
      exact ⟨units, ending, rfl, decoded⟩
    · exact absurd h (by simp)
  · intro h
    obtain ⟨units, ending, rfl, decoded⟩ := h
    simp [key, decoded, bind, Except.bind, pure, Except.pure]

theorem colon_eq_ok_iff {lexemes rest : List Lexeme} :
    colon lexemes = .ok ((), rest) ↔ lexemes = .colon :: rest := by
  constructor
  · intro h
    unfold colon at h
    split at h
    · exact absurd h (by simp)
    · cases h
      rfl
    · exact absurd h (by simp)
  · rintro rfl
    rfl

/-- One member: a key, a colon, and a value that leads from `state` to `state'`. -/
def MemberRead (member : σ → String → Except Fault (Reader σ)) (state : σ)
    (lexemes : List Lexeme) (state' : σ) (rest : List Lexeme) : Prop :=
  ∃ units ending name read body,
    lexemes = .string units ending :: .colon :: body ∧ stringOf units ending = .ok name ∧
      member state name = .ok read ∧ read body = .ok (state', rest)

/-- Members with commas between them, and the closing brace behind the last. -/
inductive MemberSeries (member : σ → String → Except Fault (Reader σ)) :
    σ → List Lexeme → σ → List Lexeme → Prop
  | last {state lexemes state' rest}
      (read : MemberRead member state lexemes state' (.closing .curly :: rest)) :
      MemberSeries member state lexemes state' rest
  | next {state lexemes state' first tail state'' rest}
      (read : MemberRead member state lexemes state' (.comma :: first :: tail))
      (opens : first ≠ .closing .curly)
      (others : MemberSeries member state' (first :: tail) state'' rest) :
      MemberSeries member state lexemes state'' rest

variable {member : σ → String → Except Fault (Reader σ)}

theorem memberSeries_of_membersUpTo {bound : Nat} {state state' : σ}
    {lexemes rest : List Lexeme}
    (h : membersUpTo member bound state lexemes = .ok (state', rest)) :
    MemberSeries member state lexemes state' rest := by
  induction bound generalizing state lexemes with
  | zero => exact absurd h (by simp [membersUpTo])
  | succ bound ih =>
    -- one turn: key, reader for it, colon, value, and what stands behind the value
    obtain ⟨⟨name, behindKey⟩, keyRead, h₁⟩ := bind_eq_ok_iff.1 h
    obtain ⟨read, chosen, h₂⟩ := bind_eq_ok_iff.1 h₁
    obtain ⟨⟨⟨⟩, body⟩, colonRead, h₃⟩ := bind_eq_ok_iff.1 h₂
    obtain ⟨⟨between, behind⟩, valueRead, h₄⟩ := bind_eq_ok_iff.1 h₃
    obtain ⟨⟨more, left⟩, parted, h₅⟩ := bind_eq_ok_iff.1 h₄
    obtain ⟨units, ending, rfl, decoded⟩ := key_eq_ok_iff.1 keyRead
    obtain rfl := colon_eq_ok_iff.1 colonRead
    rcases another_eq_ok_iff.1 parted with ⟨rfl, rfl⟩ | ⟨rfl, rfl, first, tail, rfl, opens⟩
    · obtain ⟨rfl, rfl⟩ := Prod.mk.inj (pure_eq_ok_iff.1 h₅)
      exact MemberSeries.last ⟨units, ending, name, read, body, rfl, decoded, chosen, valueRead⟩
    · exact MemberSeries.next ⟨units, ending, name, read, body, rfl, decoded, chosen, valueRead⟩
        opens (ih h₅)

/-- Whichever reader is chosen for a member takes at least one lexeme. -/
def ShrinksMembers (member : σ → String → Except Fault (Reader σ)) : Prop :=
  ∀ {state name read}, member state name = .ok read → Shrinks read

theorem MemberRead.length_lt (shrinks : ShrinksMembers member) {state state' : σ}
    {lexemes rest : List Lexeme} (h : MemberRead member state lexemes state' rest) :
    rest.length < lexemes.length := by
  obtain ⟨units, ending, name, read, body, rfl, -, chosen, valueRead⟩ := h
  have taken := shrinks chosen valueRead
  simp only [List.length_cons]
  omega

/-- One turn of the loop over members. -/
theorem membersUpTo_of_memberRead {bound : Nat} {state state' : σ} {lexemes rest : List Lexeme}
    (h : MemberRead member state lexemes state' rest) :
    membersUpTo member (bound + 1) state lexemes = (do
      let (more, rest) ← another .curly rest
      if more then membersUpTo member bound state' rest else return (state', rest)) := by
  obtain ⟨units, ending, name, read, body, rfl, decoded, chosen, valueRead⟩ := h
  simp [membersUpTo, key, colon, decoded, chosen, valueRead, bind, Except.bind, pure, Except.pure]

theorem membersUpTo_of_memberSeries (shrinks : ShrinksMembers member) {bound : Nat}
    {state state' : σ} {lexemes rest : List Lexeme}
    (h : MemberSeries member state lexemes state' rest) (enough : lexemes.length ≤ bound) :
    membersUpTo member bound state lexemes = .ok (state', rest) := by
  induction h generalizing bound with
  | last read =>
    have taken := read.length_lt shrinks
    obtain ⟨bound, rfl⟩ := Nat.exists_eq_succ_of_ne_zero (n := bound) (by omega)
    simp [membersUpTo_of_memberRead read, another_closing, bind, Except.bind, pure, Except.pure]
  | @next state lexemes state' first tail state'' rest read opens others ih =>
    have taken := read.length_lt shrinks
    obtain ⟨bound, rfl⟩ := Nat.exists_eq_succ_of_ne_zero (n := bound) (by omega)
    have found : membersUpTo member bound state' (first :: tail) = .ok (state'', rest) := by
      refine ih ?_
      simp only [List.length_cons] at taken ⊢
      omega
    simp [membersUpTo_of_memberRead read, another_comma opens, found, bind, Except.bind]

/-- An object is empty or holds a series of members. -/
theorem members_eq_ok_iff (shrinks : ShrinksMembers member) {state state' : σ}
    {lexemes rest : List Lexeme} :
    members member state lexemes = .ok (state', rest) ↔
      state' = state ∧ lexemes = .closing .curly :: rest ∨
      (∃ first tail, lexemes = first :: tail ∧ first ≠ .closing .curly) ∧
        MemberSeries member state lexemes state' rest := by
  constructor
  · intro h
    obtain ⟨⟨any, left⟩, opened, h₁⟩ := bind_eq_ok_iff.1 h
    rcases inside_eq_ok_iff.1 opened with ⟨rfl, rfl⟩ | ⟨rfl, rfl, start⟩
    · obtain ⟨rfl, rfl⟩ := Prod.mk.inj (pure_eq_ok_iff.1 h₁)
      exact Or.inl ⟨rfl, rfl⟩
    · exact Or.inr ⟨start, memberSeries_of_membersUpTo h₁⟩
  · intro h
    rcases h with ⟨rfl, rfl⟩ | ⟨⟨first, tail, rfl, opens⟩, series⟩
    · simp [members, inside_closing, bind, Except.bind, pure, Except.pure]
    · have read := membersUpTo_of_memberSeries shrinks series (Nat.le_refl _)
      simpa [members, inside_of_ne opens, bind, Except.bind] using read

/-- Two readers that both read an object both find it empty or both read a series. -/
theorem memberSeries_of_members_of_members {member' : τ → String → Except Fault (Reader τ)}
    (shrinks : ShrinksMembers member) (shrinks' : ShrinksMembers member') {state after : σ}
    {state' after' : τ} {lexemes rest rest' : List Lexeme}
    (h : members member state lexemes = .ok (after, rest))
    (h' : members member' state' lexemes = .ok (after', rest')) :
    after = state ∧ after' = state' ∧ rest = rest' ∨
      MemberSeries member state lexemes after rest ∧
        MemberSeries member' state' lexemes after' rest' := by
  rcases (members_eq_ok_iff shrinks).1 h with ⟨none, rfl⟩ | ⟨⟨_, _, rfl, opens⟩, series⟩ <;>
    rcases (members_eq_ok_iff shrinks').1 h' with ⟨none', same⟩ | ⟨⟨_, _, same, opens'⟩, series'⟩
  · exact Or.inl ⟨none, none', (List.cons.inj same).2⟩
  · exact absurd (List.cons.inj same).1.symm opens'
  · exact absurd (List.cons.inj same).1 opens
  · exact Or.inr ⟨series, series'⟩

theorem MemberSeries.length_lt (shrinks : ShrinksMembers member) {state state' : σ}
    {lexemes rest : List Lexeme} (h : MemberSeries member state lexemes state' rest) :
    rest.length < lexemes.length := by
  induction h with
  | last read =>
    have := read.length_lt shrinks
    simp only [List.length_cons] at this
    omega
  | next read _ _ ih =>
    have := read.length_lt shrinks
    simp only [List.length_cons] at this ih
    omega

theorem members_shrinks (shrinks : ShrinksMembers member) (start : σ) :
    Shrinks (members member start) := by
  intro lexemes state rest h
  rcases (members_eq_ok_iff shrinks).1 h with ⟨-, rfl⟩ | ⟨-, series⟩
  · simp
  · exact series.length_lt shrinks

end CloudImages.Json.Reader
