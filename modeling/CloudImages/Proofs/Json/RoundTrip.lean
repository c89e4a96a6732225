import CloudImages.Json.Access
import CloudImages.Proofs.Json.Lexing
import CloudImages.Proofs.Json.Tree
import Mathlib.Data.List.Forall2

set_option autoImplicit false

/-! # Written documents are read back

A value without doubles, with distinct keys in each object, that nests no deeper than documents may
(`Value.Writable`), is read back from its text (`Value.parse_render`): the same members in the same
order, the same integers, the same strings. -/

namespace CloudImages.Json

/-- What makes a value one that is read back, where values may nest `bound` deep. -/
structure Value.Writable (v : Value) (bound : Nat) : Prop where
  integers : v.NoDoubles
  distinct : v.DistinctKeys
  fits : v.depth ≤ bound

namespace Value.Writable

variable {bound : Nat}

theorem null : Value.null.Writable bound :=
  ⟨trivial, trivial, Nat.zero_le bound⟩

theorem boolean (b : Bool) : (Value.boolean b).Writable bound :=
  ⟨trivial, trivial, Nat.zero_le bound⟩

theorem string (s : String) : (Value.string s).Writable bound :=
  ⟨trivial, trivial, Nat.zero_le bound⟩

theorem ofInt64 (n : Int64) : (Value.ofInt64 n).Writable bound :=
  ⟨⟨_, rfl⟩, trivial, Nat.zero_le bound⟩

theorem ofInt64? (n : Option Int64) : (Value.ofInt64? n).Writable bound := by
  cases n with
  | none => exact null
  | some n => exact ofInt64 n

theorem array_iff {vs : List Value} :
    (array vs).Writable (bound + 1) ↔ ∀ v ∈ vs, v.Writable bound := by
  constructor
  · rintro ⟨integers, distinct, fits⟩ v there
    exact ⟨noDoubles_array_iff.1 integers v there, distinctKeys_array_iff.1 distinct v there,
      depth_array_le_iff.1 fits v there⟩
  · intro each
    exact ⟨noDoubles_array_iff.2 fun v there => (each v there).integers,
      distinctKeys_array_iff.2 fun v there => (each v there).distinct,
      depth_array_le_iff.2 fun v there => (each v there).fits⟩

theorem object_iff {ms : List (String × Value)} :
    (object ms).Writable (bound + 1) ↔
      Members.Distinct ms ∧ ∀ m ∈ ms, m.2.Writable bound := by
  constructor
  · intro h
    obtain ⟨integers, distinct, fits⟩ := h
    obtain ⟨keys, distinct⟩ := distinctKeys_object_iff.1 distinct
    exact ⟨keys, fun m there => ⟨noDoubles_object_iff.1 integers m there, distinct m there,
      depth_object_le_iff.1 fits m there⟩⟩
  · intro h
    obtain ⟨keys, each⟩ := h
    exact ⟨noDoubles_object_iff.2 fun m there => (each m there).integers,
      distinctKeys_object_iff.2 ⟨keys, fun m there => (each m there).distinct⟩,
      depth_object_le_iff.2 fun m there => (each m there).fits⟩

theorem mono {v : Value} {limit : Nat} (h : v.Writable bound) (le : bound ≤ limit) :
    v.Writable limit :=
  ⟨h.integers, h.distinct, Nat.le_trans h.fits le⟩

/-- Only scalars fit where values may not nest at all. -/
theorem exists_bound {v : Value} (h : v.Writable bound) (nests : 0 < v.depth) :
    ∃ inner, bound = inner + 1 :=
  Nat.exists_eq_succ_of_ne_zero (by have := h.fits; omega)

end Value.Writable

namespace Reader

variable {α β σ : Type}

/-! ## Runs with commas between them -/

/-- Runs with commas between them begin as the first run does. -/
theorem separate_eq_cons (first : Lexeme) (tail : List Lexeme) (others : List (List Lexeme)) :
    ∃ behind, Lexeme.separate ((first :: tail) :: others) = first :: behind := by
  cases others with
  | nil => exact ⟨tail, rfl⟩
  | cons next more => exact ⟨_, rfl⟩

/-- Elements that are read from their runs are read from the runs with commas between them. -/
theorem series_separate {element : Reader α} {run : β → List Lexeme} {xs : List β} {as : List α}
    (some : xs ≠ [])
    (reads : List.Forall₂ (fun x a => ∀ rest, element (run x ++ rest) = .ok (a, rest)) xs as)
    (opens : ∀ x ∈ xs, ∃ first tail, run x = first :: tail ∧ first ≠ .closing .square)
    (rest : List Lexeme) :
    Series element (Lexeme.separate (xs.map run) ++ .closing .square :: rest) as rest := by
  induction reads with
  | nil => exact absurd rfl some
  | @cons x a xs as read reads ih =>
    cases reads with
    | nil => exact Series.last (read _)
    | @cons y b ys bs _ _ =>
      obtain ⟨first, tail, begins, open'⟩ := opens y (by simp)
      have others := ih (by simp) fun x there => opens x (List.mem_cons_of_mem _ there)
      obtain ⟨behind, start⟩ := separate_eq_cons first tail (ys.map run)
      rw [← begins, ← List.map_cons] at start
      rw [start, List.cons_append] at others
      -- what stands behind the first element is the comma and the series of the others
      refine Series.next ?_ open' others
      rw [← List.cons_append, ← start]
      simpa [Lexeme.separate] using
        read (.comma :: (Lexeme.separate ((y :: ys).map run) ++ .closing .square :: rest))

/-- Members that are read from their runs are read from the runs with commas between them. What is
read of the members so far may decide whether the next ones can be read: `ready` says that they
can. -/
theorem memberSeries_separate {member : σ → String → Except Fault (Reader σ)}
    {run : β → List Lexeme} (ready : σ → List β → Prop)
    (reads : ∀ {x xs state}, ready state (x :: xs) → ∃ state', ready state' xs ∧
      ∀ rest, MemberRead member state (run x ++ rest) state' rest)
    {xs : List β} (some : xs ≠ [])
    (opens : ∀ x ∈ xs, ∃ first tail, run x = first :: tail ∧ first ≠ .closing .curly)
    {state : σ} (start : ready state xs) (rest : List Lexeme) :
    ∃ state', ready state' [] ∧
      MemberSeries member state (Lexeme.separate (xs.map run) ++ .closing .curly :: rest)
        state' rest := by
  induction xs generalizing state with
  | nil => exact absurd rfl some
  | cons x others ih =>
    obtain ⟨state', start', read⟩ := reads start
    cases others with
    | nil => exact ⟨state', start', MemberSeries.last (read _)⟩
    | cons y ys =>
      obtain ⟨first, tail, begins, open'⟩ := opens y (by simp)
      obtain ⟨state'', done, series⟩ :=
        ih (by simp) (fun x there => opens x (List.mem_cons_of_mem _ there)) start'
      obtain ⟨behind, start⟩ := separate_eq_cons first tail (ys.map run)
      rw [← begins, ← List.map_cons] at start
      rw [start, List.cons_append] at series
      refine ⟨state'', done, MemberSeries.next ?_ open' series⟩
      rw [← List.cons_append, ← start]
      simpa [Lexeme.separate] using
        read (.comma :: (Lexeme.separate ((y :: ys).map run) ++ .closing .curly :: rest))

/-- An array of elements that are read from their runs is read. -/
theorem elements_separate {element : Reader α} (shrinks : Shrinks element)
    {run : β → List Lexeme} {xs : List β} {as : List α}
    (reads : List.Forall₂ (fun x a => ∀ rest, element (run x ++ rest) = .ok (a, rest)) xs as)
    (opens : ∀ x ∈ xs, ∃ first tail, run x = first :: tail ∧ first ≠ .closing .square)
    (rest : List Lexeme) :
    elements element (Lexeme.separate (xs.map run) ++ .closing .square :: rest)
      = .ok (as, rest) := by
  rw [elements_eq_ok_iff shrinks]
  cases xs with
  | nil =>
    cases reads
    exact Or.inl ⟨rfl, rfl⟩
  | cons x others =>
    obtain ⟨first, tail, begins, open'⟩ := opens x List.mem_cons_self
    obtain ⟨behind, start⟩ := separate_eq_cons first tail (others.map run)
    refine Or.inr ⟨⟨first, behind ++ .closing .square :: rest, ?_, open'⟩,
      series_separate (by simp) reads opens rest⟩
    rw [List.map_cons, begins, start, List.cons_append]

/-- An object of members that are read from their runs is read. -/
theorem members_separate {member : σ → String → Except Fault (Reader σ)}
    (shrinks : ShrinksMembers member) {run : β → List Lexeme} (ready : σ → List β → Prop)
    (reads : ∀ {x xs state}, ready state (x :: xs) → ∃ state', ready state' xs ∧
      ∀ rest, MemberRead member state (run x ++ rest) state' rest)
    {xs : List β}
    (opens : ∀ x ∈ xs, ∃ first tail, run x = first :: tail ∧ first ≠ .closing .curly)
    {state : σ} (start : ready state xs) (rest : List Lexeme) :
    ∃ state', ready state' [] ∧
      members member state (Lexeme.separate (xs.map run) ++ .closing .curly :: rest)
        = .ok (state', rest) := by
  cases xs with
  | nil => exact ⟨state, start, (members_eq_ok_iff shrinks).2 (Or.inl ⟨rfl, rfl⟩)⟩
  | cons x others =>
    obtain ⟨state', done, series⟩ := memberSeries_separate ready reads (by simp) opens start rest
    obtain ⟨first, tail, begins, open'⟩ := opens x List.mem_cons_self
    obtain ⟨behind, begin'⟩ := separate_eq_cons first tail (others.map run)
    refine ⟨state', done, (members_eq_ok_iff shrinks).2
      (Or.inr ⟨⟨first, behind ++ .closing .curly :: rest, ?_, open'⟩, series⟩)⟩
    rw [List.map_cons, begins, begin', List.cons_append]

/-! ## Values -/

theorem numberOf_ofInt (n : Integer) : numberOf (NumberText.ofInt n.val) = .ok (.integer n) := by
  rw [numberOf, NumberText.toNumber?_ofInteger]

theorem stringOf_units (s : String) : stringOf (StringText.units s) .closed = .ok s := by
  rw [stringOf, StringText.decode_units, Except.map, String.ofList_toList]

theorem lexemes_array_append (vs : List Value) (rest : List Lexeme) :
    (Value.array vs).lexemes ++ rest = .opening .square ::
      (Lexeme.separate (vs.map Value.lexemes) ++ .closing .square :: rest) := by
  simp [Value.lexemes, Value.lexemesOfElements_eq_map]

/-- The lexemes of a member. -/
def memberLexemes (m : String × Value) : List Lexeme :=
  .ofString m.1 :: .colon :: m.2.lexemes

theorem lexemes_object_append (ms : Members Value) (rest : List Lexeme) :
    (Value.object ms).lexemes ++ rest = .opening .curly ::
      (Lexeme.separate (ms.map memberLexemes) ++ .closing .curly :: rest) := by
  have each : Value.lexemesOfMembers ms = ms.map memberLexemes := Value.lexemesOfMembers_eq_map ms
  simp [Value.lexemes, each]

/-- A value can stand in an array, and a member in an object: neither begins by closing it. -/
theorem lexemes_opens (v : Value) :
    ∃ first tail, v.lexemes = first :: tail ∧ first ≠ .closing .square := by
  obtain ⟨first, tail, start, opens⟩ := v.lexemes_eq_cons
  exact ⟨first, tail, start, opens .square⟩

theorem memberLexemes_opens (m : String × Value) :
    ∃ first tail, memberLexemes m = first :: tail ∧ first ≠ .closing .curly :=
  ⟨_, _, rfl, by simp [Lexeme.ofString]⟩

/-- Put after the members `before`, the members `later` leave `ms`; all of them stand in `ms`. -/
def Completes (ms before later : Members Value) : Prop :=
  (∀ m ∈ later, m ∈ ms) ∧ later.foldl (fun members m => members.put m.1 m.2) before = ms

/-- The members of an object are read from their lexemes, if the value of each of them is. -/
theorem members_memberLexemes {inner : Reader Value} (shrinks : Shrinks inner)
    {ms : Members Value} (keys : Members.Distinct ms)
    (each : ∀ m ∈ ms, ∀ rest, inner (m.2.lexemes ++ rest) = .ok (m.2, rest))
    (rest : List Lexeme) :
    members (memberOf inner) [] (Lexeme.separate (ms.map memberLexemes) ++ .closing .curly :: rest)
      = .ok (ms, rest) := by
  have reads : ∀ {m later before}, Completes ms before (m :: later) → ∃ after,
      Completes ms after later ∧
        ∀ rest, MemberRead (memberOf inner) before (memberLexemes m ++ rest) after rest := by
    rintro m later before ⟨within, done⟩
    have valueRead := each m (within m List.mem_cons_self)
    refine ⟨before.put m.1 m.2, ⟨fun _ h => within _ (List.mem_cons_of_mem m h), done⟩, ?_⟩
    intro rest
    exact memberRead_memberOf_iff.2 ⟨StringText.units m.1, .closed, m.1, m.2.lexemes ++ rest,
      m.2, rfl, stringOf_units m.1, valueRead rest, rfl⟩
  -- members are put one after the other; with distinct keys that leaves them as they are
  have start : Completes ms [] ms := ⟨fun _ there => there, Members.ofList_eq_self keys⟩
  obtain ⟨after, ⟨-, done⟩, read⟩ := members_separate (memberOf_shrinks shrinks) (Completes ms)
    reads (fun m _ => memberLexemes_opens m) start rest
  rw [read]
  exact congrArg (fun ms => Except.ok (ms, rest)) done

/-- The lexemes of a value are read as that value, whatever stands behind them. -/
theorem value_lexemes {v : Value} {depth : Nat} (h : v.Writable depth) (rest : List Lexeme) :
    value depth (v.lexemes ++ rest) = .ok (v, rest) := by
  induction v using Value.induction generalizing depth rest with
  | null => exact value_eq_ok_iff.2 (ValueRead.scalar rfl rfl)
  | boolean b => exact value_eq_ok_iff.2 (ValueRead.scalar rfl rfl)
  | number n =>
    obtain ⟨i, rfl⟩ := h.integers
    have head : headOf (.number (NumberText.ofInt i.val)) = .ok (.number (.integer i)) := by
      rw [headOf, numberOf_ofInt, Except.map]
    exact value_eq_ok_iff.2 (ValueRead.scalar head rfl)
  | string s =>
    have head : headOf (.ofString s) = .ok (.string s) := by
      rw [Lexeme.ofString, headOf, stringOf_units, Except.map]
    exact value_eq_ok_iff.2 (ValueRead.scalar head rfl)
  | array vs ih =>
    obtain ⟨depth, rfl⟩ := h.exists_bound (by simp [Value.depth])
    have each := Value.Writable.array_iff.1 h
    have read : elements (value depth)
        (Lexeme.separate (vs.map Value.lexemes) ++ .closing .square :: rest) = .ok (vs, rest) := by
      refine elements_separate (value_shrinks depth) (List.forall₂_same.2 ?_)
        (fun v _ => lexemes_opens v) rest
      exact fun v there rest => ih v there (each v there) rest
    rw [lexemes_array_append]
    exact value_eq_ok_iff.2 (ValueRead.array rfl read)
  | object ms ih =>
    obtain ⟨depth, rfl⟩ := h.exists_bound (by simp [Value.depth])
    obtain ⟨keys, each⟩ := Value.Writable.object_iff.1 h
    have read := members_memberLexemes (value_shrinks depth) keys
      (fun m there rest => ih m there (each m there) rest) rest
    rw [lexemes_object_append]
    exact value_eq_ok_iff.2 (ValueRead.object rfl read)

end Reader

/-! ## Documents -/

namespace Value

theorem toList_render (v : Value) : v.render.toList = v.text := by
  rw [render, String.toList_ofList]

theorem ofText_render {v : Value} (h : v.Writable depthLimit) : ofText v.render = .ok v := by
  have read := Reader.value_lexemes h []
  rw [List.append_nil] at read
  rw [ofText, Reader.whole_eq_ok_iff, toList_render, scan_text h.integers, read]

theorem parse_render {v : Value} (h : v.Writable depthLimit) : parse v.render = .ok v := by
  rw [parse, ofText_render h]

/-- The tree of a whole text has distinct keys and nests no deeper than documents may. -/
theorem of_ofText {text : String} {v : Value} (h : ofText text = .ok v) :
    v.DistinctKeys ∧ v.depth ≤ depthLimit := by
  have read := Reader.whole_eq_ok_iff.1 h
  exact ⟨Reader.distinctKeys_of_value read, Reader.depth_le_of_value read⟩

theorem parse_eq_ok_iff {text : String} {v : Value} :
    parse text = .ok v ↔ ofText text = .ok v := by
  unfold parse
  split
  · next found read => rw [read, Except.ok.injEq, Except.ok.injEq]
  · next fault read => simp [read]

end Value

end CloudImages.Json
