import CloudImages.Proofs.Json.RoundTrip
import CloudImages.Proofs.Pool.Readers

set_option autoImplicit false

/-! # Two readers of the same assignments

Assignments are read straight from the lexemes; the same text can be read as a tree as well. Where
both readers accept a text, the tree is a list of assignments and they are the ones that were read
(`isPoolList_of_ofText`). The other way round that holds of written trees only: of two members with
one key the tree keeps the last, while an assignment may not give its profile or its pool twice.

Both readers are followed over the same lexemes. On one member they take the same step: what an
assignment learns from it (`Learns`) is what the tree reader reads there. -/

namespace CloudImages.PoolAssignment

open Json Json.Reader Outcome

variable {α : Type} {depth : Nat} {lexemes left rest : List Lexeme}
  {draft draft' : Draft} {v : Value}

/-! ## Scalars -/

/-- Where the tree reader reads a value, a reader of scalars reads the same value, if it is one that
it accepts. -/
theorem ReadsScalar.iff_of_value {reader : Reader α} {P : Value → α → Prop}
    (reads : ReadsScalar reader P) (flat : ∀ {v a}, P v a → v.depth = 0) {v : Value} {a : α}
    (tree : value depth lexemes = .ok (v, rest)) :
    reader lexemes = .ok (a, left) ↔ P v a ∧ left = rest := by
  constructor
  · intro h
    obtain ⟨first, found, w, rfl, read, whole, holds⟩ := reads.1 h
    cases value_eq_ok_iff.1 tree with
    | scalar head whole' =>
      obtain rfl := Except.ok.inj (read.symm.trans head)
      obtain rfl := Option.some.inj (whole.symm.trans whole')
      exact ⟨holds, rfl⟩
    | array head _ | object head _ =>
      obtain rfl := Except.ok.inj (read.symm.trans head)
      exact absurd whole (by simp [scalar?])
  · rintro ⟨holds, rfl⟩
    cases value_eq_ok_iff.1 tree with
    | scalar head whole => exact reads.2 ⟨_, _, _, rfl, head, whole, holds⟩
    | array | object => exact absurd (flat holds) (by simp [Value.depth])

theorem stringReader_iff_of_value {s : String}
    (tree : value depth lexemes = .ok (v, rest)) :
    stringReader lexemes = .ok (s, left) ↔ v = .string s ∧ left = rest :=
  readsScalar_stringReader.iff_of_value (by rintro _ _ rfl; rfl) tree

theorem poolReader_iff_of_value {pool : Option Int64}
    (tree : value depth lexemes = .ok (v, rest)) :
    poolReader lexemes = .ok (pool, left) ↔ IsPool v pool ∧ left = rest :=
  readsScalar_poolReader.iff_of_value (by rintro _ _ (_ | _) <;> rfl) tree

/-! ## Assignments as lists -/

theorem describes_of_listReader {vs : List Value} {a : PoolAssignment}
    (read : listReader lexemes = .ok (a, left))
    (tree : elements (value depth) lexemes = .ok (vs, rest)) :
    Describes (.array vs) a ∧ left = rest := by
  cases listReader_eq_ok_iff.1 read with
  | single opens profile none =>
    cases series_of_elements (value_shrinks depth) opens tree with
    | last element =>
      obtain ⟨rfl, same⟩ := (stringReader_iff_of_value element).1 profile
      cases same
      exact ⟨Describes.single none, rfl⟩
    | next element => exact absurd ((stringReader_iff_of_value element).1 profile).2 (by simp)
  | pair opens profile _ pool =>
    cases series_of_elements (value_shrinks depth) opens tree with
    | last element => exact absurd ((stringReader_iff_of_value element).1 profile).2 (by simp)
    | next element _ others =>
      obtain ⟨rfl, same⟩ := (stringReader_iff_of_value element).1 profile
      cases same
      -- the pool is the second element, and the closing bracket behind it ends the series
      cases others with
      | last element =>
        obtain ⟨isPool, same⟩ := (poolReader_iff_of_value element).1 pool
        cases same
        exact ⟨Describes.pair isPool, rfl⟩
      | next element => exact absurd ((poolReader_iff_of_value element).1 pool).2 (by simp)

theorem listReader_of_describes {vs : List Value} {a : PoolAssignment}
    (h : Describes (.array vs) a) (tree : elements (value depth) lexemes = .ok (vs, rest)) :
    listReader lexemes = .ok (a, rest) := by
  rcases (elements_eq_ok_iff (value_shrinks depth)).1 tree with
    ⟨rfl, -⟩ | ⟨⟨first, tail, rfl, opens⟩, series⟩
  · cases h
  · refine listReader_eq_ok_iff.2 ?_
    cases h with
    | single none =>
      cases series with
      | last tree =>
        exact ListRead.single opens ((stringReader_iff_of_value tree).2 ⟨rfl, rfl⟩) none
      | next _ _ others => cases others
    | pair isPool =>
      cases series with
      | next tree opens' others =>
        cases others with
        | last tree' =>
          exact ListRead.pair opens ((stringReader_iff_of_value tree).2 ⟨rfl, rfl⟩) opens'
            ((poolReader_iff_of_value tree').2 ⟨isPool, rfl⟩)
        | next _ _ others => cases others

/-! ## Assignments as objects -/

/-- What a draft learns from a member. Profile and pool are told once; of other members it learns
nothing. -/
inductive Learns (draft : Draft) : String → Value → Draft → Prop
  | profile {s : String} (new : draft.profile = none) :
      Learns draft profileKey (.string s) { draft with profile := some s }
  | pool {v : Value} {pool : Option Int64} (new : draft.pool = none) (isPool : IsPool v pool) :
      Learns draft poolKey v { draft with pool := some pool }
  | other {key : String} {v : Value} (notProfile : key ≠ profileKey) (notPool : key ≠ poolKey) :
      Learns draft key v draft

variable {units : List TextUnit} {ending : StringEnd} {name : String} {body : List Lexeme}

/-- Where the tree reader reads a member, a draft learns from what it reads there. -/
theorem learns_of_memberRead (decoded : stringOf units ending = .ok name)
    (tree : value depth body = .ok (v, rest))
    (h : MemberRead member draft (.string units ending :: .colon :: body) draft' left) :
    Learns draft name v draft' ∧ left = rest := by
  obtain ⟨_, _, _, read, _, same, decoded', chosen, valueRead⟩ := h
  cases same
  obtain rfl := Except.ok.inj (decoded.symm.trans decoded')
  cases member_eq_ok_iff.1 chosen with
  | profile new =>
    obtain ⟨s, profileRead, rfl⟩ := giving_eq_ok_iff.1 valueRead
    obtain ⟨rfl, rfl⟩ := (stringReader_iff_of_value tree).1 profileRead
    exact ⟨Learns.profile new, rfl⟩
  | pool new =>
    obtain ⟨pool, poolRead, rfl⟩ := giving_eq_ok_iff.1 valueRead
    obtain ⟨isPool, rfl⟩ := (poolReader_iff_of_value tree).1 poolRead
    exact ⟨Learns.pool new isPool, rfl⟩
  | other notProfile notPool =>
    obtain ⟨⟨⟩, skipped, rfl⟩ := giving_eq_ok_iff.1 valueRead
    have same := Except.ok.inj (skipped.symm.trans (skip_of_value tree))
    exact ⟨Learns.other notProfile notPool, congrArg Prod.snd same⟩

theorem memberRead_of_learns (decoded : stringOf units ending = .ok name)
    (tree : value depth body = .ok (v, rest)) (h : Learns draft name v draft') :
    MemberRead member draft (.string units ending :: .colon :: body) draft' rest := by
  cases h with
  | profile new =>
    refine ⟨units, ending, _, _, body, rfl, decoded, member_eq_ok_iff.2 (.profile new), ?_⟩
    exact giving_eq_ok_iff.2 ⟨_, (stringReader_iff_of_value tree).2 ⟨rfl, rfl⟩, rfl⟩
  | pool new isPool =>
    refine ⟨units, ending, _, _, body, rfl, decoded, member_eq_ok_iff.2 (.pool new), ?_⟩
    exact giving_eq_ok_iff.2 ⟨_, (poolReader_iff_of_value tree).2 ⟨isPool, rfl⟩, rfl⟩
  | other notProfile notPool =>
    refine ⟨units, ending, _, _, body, rfl, decoded,
      member_eq_ok_iff.2 (.other notProfile notPool), ?_⟩
    exact giving_eq_ok_iff.2 ⟨_, skip_of_value tree, rfl⟩

/-- A draft has learned what the members say, as far as they concern it. -/
structure Tells (draft : Draft) (members : Members Value) : Prop where
  profile : members.lookup profileKey = draft.profile.map Value.string
  pool : Option.Rel IsPool (members.lookup poolKey) draft.pool

theorem tells_empty : Tells {} [] :=
  ⟨rfl, Option.Rel.none⟩

/-- A draft that learns of each member as it is put goes on to tell what the members say. -/
theorem Tells.put {members : Members Value} (tells : Tells draft members)
    (learns : Learns draft name v draft') : Tells draft' (members.put name v) := by
  obtain ⟨profile, pool⟩ := tells
  cases learns with
  | profile =>
    refine ⟨?_, ?_⟩
    · rw [Members.lookup_put, if_pos rfl, Option.map_some]
    · rwa [Members.lookup_put, if_neg poolKey_ne_profileKey]
  | pool _ isPool =>
    refine ⟨?_, ?_⟩
    · rwa [Members.lookup_put, if_neg poolKey_ne_profileKey.symm]
    · rw [Members.lookup_put, if_pos rfl]
      exact Option.Rel.some isPool
  | other notProfile notPool =>
    refine ⟨?_, ?_⟩
    · rwa [Members.lookup_put, if_neg notProfile.symm]
    · rwa [Members.lookup_put, if_neg notPool.symm]

/-- One member, read by both readers. -/
theorem Tells.memberRead {before after : Members Value} (tells : Tells draft before)
    (read : MemberRead member draft lexemes draft' left)
    (tree : MemberRead (memberOf (value depth)) before lexemes after rest) :
    Tells draft' after ∧ left = rest := by
  obtain ⟨units, ending, name, body, v, rfl, decoded, valueRead, rfl⟩ :=
    memberRead_memberOf_iff.1 tree
  obtain ⟨learns, same⟩ := learns_of_memberRead decoded valueRead read
  exact ⟨tells.put learns, same⟩

/-- A series of members, read by both readers. -/
theorem Tells.memberSeries {before after : Members Value} (tells : Tells draft before)
    (read : MemberSeries member draft lexemes draft' left)
    (tree : MemberSeries (memberOf (value depth)) before lexemes after rest) :
    Tells draft' after ∧ left = rest := by
  induction read generalizing before with
  | last read =>
    cases tree with
    | last tree =>
      obtain ⟨tells', same⟩ := tells.memberRead read tree
      exact ⟨tells', (List.cons.inj same).2⟩
    | next tree => exact absurd (tells.memberRead read tree).2 (by simp)
  | next read _ _ ih =>
    cases tree with
    | last tree => exact absurd (tells.memberRead read tree).2 (by simp)
    | next tree _ others =>
      obtain ⟨tells', same⟩ := tells.memberRead read tree
      cases same
      exact ih tells' others

theorem tells_of_members {ms : Members Value} (read : members member {} lexemes = .ok (draft, left))
    (tree : members (memberOf (value depth)) [] lexemes = .ok (ms, rest)) :
    Tells draft ms ∧ left = rest := by
  rcases memberSeries_of_members_of_members member_shrinks
    (memberOf_shrinks (value_shrinks depth)) read tree with ⟨rfl, rfl, same⟩ | ⟨read, tree⟩
  · exact ⟨tells_empty, same⟩
  · exact tells_empty.memberSeries read tree

/-- A draft that tells what the members say is finished as the assignment that they stand for. -/
theorem Tells.finish_iff {members : Members Value} (tells : Tells draft members)
    {a : PoolAssignment} : draft.finish = .ok a ↔ Describes (.object members) a := by
  obtain ⟨profile, pool⟩ := tells
  rw [finish_eq_ok_iff]
  constructor
  · rintro ⟨told, isPool⟩
    refine Describes.object (by rw [profile, told, Option.map_some]) ?_
    generalize members.lookup poolKey = found, draft.pool = pool' at pool isPool ⊢
    cases pool with
    | none => exact Or.inl ⟨rfl, isPool⟩
    | some holds => exact Or.inr ⟨_, rfl, isPool ▸ holds⟩
  · intro h
    cases h with
    | object profile' pool' =>
      rw [profile', eq_comm, Option.map_eq_some_iff] at profile
      obtain ⟨s, told, same⟩ := profile
      refine ⟨Value.string.inj same ▸ told, ?_⟩
      generalize members.lookup poolKey = found, draft.pool = known at pool pool' ⊢
      cases pool with
      | none => exact pool'.elim And.right fun ⟨_, there, _⟩ => absurd there (by simp)
      | some holds =>
        rcases pool' with ⟨absent, -⟩ | ⟨v, there, isPool⟩
        · exact absurd absent (by simp)
        · cases there
          exact isPool_unique isPool holds

/-! ## One assignment -/

theorem describes_of_reader {a : PoolAssignment} (read : reader lexemes = .ok (a, left))
    (tree : value depth lexemes = .ok (v, rest)) : Describes v a ∧ left = rest := by
  obtain ⟨first, tail, rfl, kinds⟩ := reader_eq_ok_iff.1 read
  cases value_eq_ok_iff.1 tree with
  | scalar head whole =>
    rcases kinds with ⟨head', -⟩ | ⟨head', -⟩ <;>
      · obtain rfl := Except.ok.inj (head.symm.trans head')
        exact absurd whole (by simp [scalar?])
  | array head inner =>
    rcases kinds with ⟨-, listed⟩ | ⟨head', -⟩
    · exact describes_of_listReader listed inner
    · exact absurd (head.symm.trans head') (by simp)
  | object head inner =>
    rcases kinds with ⟨head', -⟩ | ⟨-, draft, read, finished⟩
    · exact absurd (head.symm.trans head') (by simp)
    · obtain ⟨tells, same⟩ := tells_of_members read inner
      exact ⟨tells.finish_iff.1 finished, same⟩

/-! ## Written assignments -/

/-- The draft can learn of each of the members: they can be written, no key is there twice, and the
profile and the pool are new to the draft and of the right kind. -/
structure Ready (depth : Nat) (draft : Draft) (ms : Members Value) : Prop where
  fits : ∀ m ∈ ms, m.2.Writable depth
  distinct : Members.Distinct ms
  profile : ∀ v, (profileKey, v) ∈ ms → draft.profile = none ∧ ∃ s, v = .string s
  pool : ∀ v, (poolKey, v) ∈ ms → draft.pool = none ∧ ∃ pool, IsPool v pool

theorem ready_of_describes {ms : Members Value} {a : PoolAssignment}
    (fits : ∀ m ∈ ms, m.2.Writable depth) (distinct : Members.Distinct ms)
    (h : Describes (.object ms) a) : Ready depth {} ms := by
  cases h with
  | object profile pool =>
    refine ⟨fits, distinct, ?_, ?_⟩
    · intro v there
      have found := (Members.lookup_eq_some_iff_mem distinct).2 there
      exact ⟨rfl, _, Option.some.inj (found.symm.trans profile)⟩
    · intro v there
      have found := (Members.lookup_eq_some_iff_mem distinct).2 there
      rcases pool with ⟨absent, -⟩ | ⟨w, there', isPool⟩
      · exact absurd (found.symm.trans absent) (by simp)
      · obtain rfl := Option.some.inj (found.symm.trans there')
        exact ⟨rfl, _, isPool⟩

theorem Ready.learns {m : String × Value} {ms : Members Value}
    (ready : Ready depth draft (m :: ms)) :
    ∃ draft', Learns draft m.1 m.2 draft' ∧ Ready depth draft' ms := by
  obtain ⟨key, v⟩ := m
  have fits := (List.forall_mem_cons.1 ready.fits).2
  obtain ⟨fresh, distinct⟩ := List.nodup_cons.1 ready.distinct
  have only : ∀ w, (key, w) ∉ ms := fun w there => fresh (List.mem_map.2 ⟨_, there, rfl⟩)
  have profile := fun w there => ready.profile w (List.mem_cons_of_mem _ there)
  have pool := fun w there => ready.pool w (List.mem_cons_of_mem _ there)
  by_cases isProfile : key = profileKey
  · subst isProfile
    obtain ⟨new, s, rfl⟩ := ready.profile v List.mem_cons_self
    exact ⟨_, Learns.profile new, fits, distinct, fun w there => absurd there (only w), pool⟩
  · by_cases isPoolKey : key = poolKey
    · subst isPoolKey
      obtain ⟨new, _, isPool⟩ := ready.pool v List.mem_cons_self
      exact ⟨_, Learns.pool new isPool, fits, distinct, profile,
        fun w there => absurd there (only w)⟩
    · exact ⟨draft, Learns.other isProfile isPoolKey, fits, distinct, profile, pool⟩

theorem members_of_ready {ms : Members Value} (ready : Ready depth draft ms)
    (rest : List Lexeme) : ∃ draft', members member draft
      (Lexeme.separate (ms.map memberLexemes) ++ .closing .curly :: rest) = .ok (draft', rest) := by
  have reads : ∀ {m later draft}, Ready depth draft (m :: later) → ∃ draft',
      Ready depth draft' later ∧
        ∀ rest, MemberRead member draft (memberLexemes m ++ rest) draft' rest := by
    intro m later draft ready
    obtain ⟨draft', learns, ready'⟩ := ready.learns
    have fits := ready.fits m List.mem_cons_self
    exact ⟨draft', ready', fun rest =>
      memberRead_of_learns (stringOf_units m.1) (value_lexemes fits rest) learns⟩
  obtain ⟨draft', -, read⟩ := members_separate member_shrinks (Ready depth) reads
    (fun m _ => memberLexemes_opens m) ready rest
  exact ⟨draft', read⟩

/-- A written value that stands for an assignment is read as it. -/
theorem reader_lexemes {a : PoolAssignment} (fits : v.Writable depth) (h : Describes v a)
    (rest : List Lexeme) : reader (v.lexemes ++ rest) = .ok (a, rest) := by
  have tree := value_lexemes fits rest
  cases v with
  | array vs =>
    rw [lexemes_array_append] at tree ⊢
    obtain ⟨depth, _, rfl, same, inner⟩ := elements_of_value tree
    cases same
    exact reader_eq_ok_iff.2 ⟨_, _, rfl, Or.inl ⟨rfl, listReader_of_describes h inner⟩⟩
  | object ms =>
    rw [lexemes_object_append] at tree ⊢
    obtain ⟨depth, _, rfl, same, inner⟩ := members_of_value tree
    cases same
    obtain ⟨distinct, each⟩ := Value.Writable.object_iff.1 fits
    obtain ⟨draft, read⟩ := members_of_ready (ready_of_describes each distinct h) rest
    obtain ⟨tells, -⟩ := tells_of_members read inner
    exact reader_eq_ok_iff.2 ⟨_, _, rfl, Or.inr ⟨rfl, draft, read, tells.finish_iff.2 h⟩⟩
  | null | boolean | number | string => cases h

/-! ## Lists of assignments -/

theorem describes_of_series {vs : List Value} {assignments : List PoolAssignment}
    (read : Series reader lexemes assignments left)
    (tree : Series (value depth) lexemes vs rest) :
    List.Forall₂ Describes vs assignments ∧ left = rest := by
  induction read generalizing vs with
  | last read =>
    cases tree with
    | last tree =>
      obtain ⟨described, same⟩ := describes_of_reader read tree
      exact ⟨.cons described .nil, (List.cons.inj same).2⟩
    | next tree => exact absurd (describes_of_reader read tree).2 (by simp)
  | next read _ _ ih =>
    cases tree with
    | last tree => exact absurd (describes_of_reader read tree).2 (by simp)
    | next tree _ others =>
      obtain ⟨described, same⟩ := describes_of_reader read tree
      cases same
      obtain ⟨later, same⟩ := ih others
      exact ⟨.cons described later, same⟩

theorem isPoolList_of_collectionReader {assignments : List PoolAssignment}
    (read : collectionReader lexemes = .ok (assignments, left))
    (tree : value depth lexemes = .ok (v, rest)) : IsPoolList v assignments := by
  obtain ⟨tail, rfl, listed⟩ := collectionReader_eq_ok_iff.1 read
  obtain ⟨inner, vs, rfl, rfl, built⟩ := elements_of_value tree
  refine ⟨vs, rfl, ?_⟩
  rcases series_of_elements_of_elements reader_shrinks (value_shrinks inner) listed built with
    ⟨rfl, rfl, -⟩ | ⟨series, series'⟩
  · exact .nil
  · exact (describes_of_series series series').1

theorem isPoolList_of_ofText {text : String} {assignments : List PoolAssignment}
    (read : ofText text = .ok assignments) (tree : Value.parse text = .ok v) :
    IsPoolList v assignments :=
  isPoolList_of_collectionReader (whole_eq_ok_iff.1 read)
    (whole_eq_ok_iff.1 (Value.parse_eq_ok_iff.1 tree))

theorem ofText_render_of_isPoolList {assignments : List PoolAssignment}
    (fits : v.Writable depthLimit) (h : IsPoolList v assignments) :
    ofText v.render = .ok assignments := by
  obtain ⟨vs, rfl, described⟩ := h
  have each : ∀ w ∈ vs, w.Writable 126 := Value.Writable.array_iff.1 fits
  have both := (List.forall₂_and_left vs assignments).2 ⟨each, described⟩
  have reads : List.Forall₂ (fun w a => ∀ rest, reader (w.lexemes ++ rest) = .ok (a, rest))
      vs assignments := both.imp fun w a ⟨fits, described⟩ => reader_lexemes fits described
  have read := elements_separate reader_shrinks reads (fun w _ => lexemes_opens w) []
  rw [ofText, whole_eq_ok_iff, Value.toList_render, Value.scan_text fits.integers]
  refine collectionReader_eq_ok_iff.2 ⟨_, ?_, read⟩
  rw [← lexemes_array_append, List.append_nil]

/-- Of any text that both readers accept, the tree is a list of the assignments that are read and of
no others; and of a tree without doubles that was read from a text, the written text is accepted as
a list of assignments exactly when the tree is one. -/
theorem isPoolList_iff_and_ofText_render_iff :
    (∀ {text : String} {assignments : List PoolAssignment} {v : Value},
      ofText text = .ok assignments → Value.parse text = .ok v →
        ∀ others, IsPoolList v others ↔ others = assignments) ∧
    ∀ {text : String} {v : Value}, Value.parse text = .ok v → v.NoDoubles →
      ∀ assignments, ofText v.render = .ok assignments ↔ IsPoolList v assignments := by
  refine ⟨?_, ?_⟩
  · intro text assignments v listed read others
    have isPoolList := isPoolList_of_ofText listed read
    constructor
    · exact fun h => isPoolList_unique h isPoolList
    · rintro rfl
      exact isPoolList
  · intro text v read integers assignments
    obtain ⟨distinct, fits⟩ := Value.of_ofText (Value.parse_eq_ok_iff.1 read)
    have writable : v.Writable depthLimit := ⟨integers, distinct, fits⟩
    constructor
    · exact fun listed => isPoolList_of_ofText listed (Value.parse_render writable)
    · exact ofText_render_of_isPoolList writable

/-- An assignment with a member to skip, whose key is there twice, and one that is an array. -/
def mixedText : String := "[\x7b\"k\":[1,\x7b\x7d],\"id\":\"a\",\"k\":2\x7d,[\"b\",7]]"

/-- The same assignments as a tree. -/
def mixedTree : Value :=
  .array [.object [("k", .null), ("id", .string "a")], .array [.string "b", .ofInt64 7]]

theorem isPoolList_iff_and_ofText_render_iff_mixed :
    (∃ v, Value.parse mixedText = .ok v ∧ IsPoolList v [⟨"a", none⟩, ⟨"b", some 7⟩]) ∧
      ofText mixedTree.render = .ok [⟨"a", none⟩, ⟨"b", some 7⟩] := by
  constructor
  · have seen : (ofText mixedText).toOption = some [⟨"a", none⟩, ⟨"b", some 7⟩] := by
      decide +kernel
    have parsed : (Value.parse mixedText).toOption.isSome := by decide +kernel
    cases listed : ofText mixedText with
    | error fault => exact absurd seen (by simp [listed, Except.toOption])
    | ok assignments =>
      cases read : Value.parse mixedText with
      | error error => exact absurd parsed (by simp [read, Except.toOption])
      | ok v =>
        rw [listed] at seen
        exact ⟨v, rfl, (isPoolList_iff_and_ofText_render_iff.1 listed read _).2
          (Option.some.inj seen).symm⟩
  · have writable : mixedTree.Writable 2 := by
      simp [mixedTree, Value.Writable.array_iff, Value.Writable.object_iff, Value.Writable.ofInt64,
        Value.Writable.string, Value.Writable.null, Members.Distinct, Members.names]
    have isPoolList : IsPoolList mixedTree [⟨"a", none⟩, ⟨"b", some 7⟩] := by
      have first : Describes (.object [("k", .null), ("id", .string "a")]) ⟨"a", none⟩ :=
        Describes.object rfl (Or.inl ⟨rfl, rfl⟩)
      have second : Describes (.array [.string "b", .ofInt64 7]) ⟨"b", some 7⟩ :=
        Describes.pair (a := ⟨"b", some 7⟩) (isPool_ofInt64? (some 7))
      exact ⟨_, rfl, .cons first (.cons second .nil)⟩
    have read := Value.parse_render (writable.mono (by decide))
    exact (isPoolList_iff_and_ofText_render_iff.2 read writable.integers _).2 isPoolList

end CloudImages.PoolAssignment
