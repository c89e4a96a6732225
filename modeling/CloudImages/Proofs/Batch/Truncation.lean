import CloudImages.Proofs.Batch.Loading
import CloudImages.Proofs.Json.Runs
import CloudImages.Proofs.Pool.Readers

set_option autoImplicit false

/-! # Texts without their end

A text for the images that has lost its end is rejected as a whole, wherever it was cut, and a text
for the pools that has lost its end is as good as none but for the warning (`load_of_cutShort`).
Both texts are lists, so what is said of lists in `Json.Reader.whole_ne_ok_of_cutShort` holds of the
tree reader and of the reader of assignments alike. -/

namespace CloudImages

open Json Json.Reader Outcome

/-! ## What a reader of assignments takes -/

namespace PoolAssignment

theorem ReadsScalar.takesRun {α : Type} {reader : Reader α} {P : Value → α → Prop}
    (reads : ReadsScalar reader P) : TakesRun reader := by
  intro lexemes a rest h
  obtain ⟨first, found, v, rfl, scalar⟩ := reads.1 h
  exact ⟨[first], rfl, fun more => reads.2 ⟨first, found, v, rfl, scalar⟩⟩

theorem listReader_takesRun : TakesRun listReader := by
  intro lexemes a rest h
  cases listReader_eq_ok_iff.1 h with
  | @single first tail _ _ opens profile none =>
    obtain ⟨_, found, v, same, scalar⟩ := readsScalar_stringReader.1 profile
    cases same
    refine ⟨[first, .closing .square], rfl, fun more => listReader_eq_ok_iff.2 ?_⟩
    exact ListRead.single opens (readsScalar_stringReader.2 ⟨first, found, v, rfl, scalar⟩) none
  | @pair first tail next more _ _ opens profile opens' pool =>
    obtain ⟨_, found, v, same, scalar⟩ := readsScalar_stringReader.1 profile
    cases same
    obtain ⟨_, found', v', same, scalar'⟩ := readsScalar_poolReader.1 pool
    cases same
    refine ⟨[first, .comma, next, .closing .square], rfl, fun more => listReader_eq_ok_iff.2 ?_⟩
    exact ListRead.pair opens (readsScalar_stringReader.2 ⟨first, found, v, rfl, scalar⟩) opens'
      (readsScalar_poolReader.2 ⟨next, found', v', rfl, scalar'⟩)

theorem member_takesMembers : TakesMembers member := by
  intro draft name read chosen
  cases member_eq_ok_iff.1 chosen with
  | profile => exact giving_takesRun readsScalar_stringReader.takesRun _
  | pool => exact giving_takesRun readsScalar_poolReader.takesRun _
  | other => exact giving_takesRun skip_takesRun _

theorem reader_takesRun : TakesRun reader := by
  intro lexemes a rest h
  obtain ⟨first, tail, rfl, ⟨head, listed⟩ | ⟨head, draft, inner, finished⟩⟩ :=
    reader_eq_ok_iff.1 h
  · obtain ⟨run, rfl, again⟩ := listReader_takesRun listed
    exact ⟨first :: run, rfl, fun more =>
      reader_eq_ok_iff.2 ⟨first, run ++ more, rfl, Or.inl ⟨head, again more⟩⟩⟩
  · have closes : ClosesRun .curly (members member {}) :=
      members_closesRun member_shrinks member_takesMembers {}
    obtain ⟨run, rfl, again⟩ := takesRun_of_closesRun closes inner
    exact ⟨first :: run, rfl, fun more =>
      reader_eq_ok_iff.2 ⟨first, run ++ more, rfl, Or.inr ⟨head, draft, again more, finished⟩⟩⟩

theorem collectionReader_readsLists : ReadsLists collectionReader := by
  intro tail assignments rest h
  obtain ⟨_, same, listed⟩ := collectionReader_eq_ok_iff.1 h
  cases same
  have closes : ClosesRun .square (elements reader) :=
    elements_closesRun reader_shrinks reader_takesRun
  obtain ⟨run, rfl, again⟩ := closes listed
  exact ⟨run, rfl, fun more => collectionReader_eq_ok_iff.2 ⟨_, rfl, again more⟩⟩

theorem collectionReader_shrinks : Shrinks collectionReader := by
  intro lexemes assignments rest h
  obtain ⟨tail, rfl, listed⟩ := collectionReader_eq_ok_iff.1 h
  exact Nat.lt_succ_of_lt (elements_shrinks reader_shrinks listed)

/-- A list of assignments cannot be read without its end. -/
theorem ofText_of_cutShort {text cut : String} (short : CutShort cut text) (shown : EndsShown text)
    {assignments : List PoolAssignment} (h : ofText text = .ok assignments) :
    ∃ fault, ofText cut = .error fault := by
  obtain ⟨tail, begins, -⟩ := collectionReader_eq_ok_iff.1 (whole_eq_ok_iff.1 h)
  cases read : ofText cut with
  | error fault => exact ⟨fault, rfl⟩
  | ok others =>
    exact absurd read (whole_ne_ok_of_cutShort collectionReader_readsLists collectionReader_shrinks
      short shown begins h others)

end PoolAssignment

/-! ## Batches -/

namespace Batch

variable {properties others : Properties}

/-- Pools that cannot be read are as good as none, but for the warning. -/
theorem load_of_poolsUnreadable {text : String} {fault : Fault}
    (given : properties.lookup poolsKey = some text)
    (unread : PoolAssignment.ofText text = .error fault) (none : others.lookup poolsKey = none)
    (same : properties.lookup imagesKey = others.lookup imagesKey) :
    load properties
      = { load others with events := .poolsUnreadable fault :: (load others).events } := by
  have warned : readPools properties = (.none, [.poolsUnreadable fault]) := by
    simp [readPools, given, unread]
  have silent : readPools others = (.none, []) := by
    simp [readPools, none]
  simp [load, warned, silent, same]

theorem load_of_images_cutShort {text cut : String} (short : CutShort cut text)
    (shown : EndsShown text) {vs : List Value} (h : Value.parse text = .ok (.array vs))
    (given : properties.lookup imagesKey = some cut) :
    (load properties).result = .error ⟨[⟨imagesKey,
      if cut = "" then "no image provided" else "cannot parse image data"⟩]⟩ := by
  split
  · next empty =>
    rw [load_of_absent (Or.inr (empty ▸ given))]
    rfl
  · next some =>
    have unreadable : Unreadable properties := by
      refine ⟨cut, ⟨given, some⟩, fun definitions parsed => ?_⟩
      exact absurd parsed (Value.parse_ne_ok_of_cutShort short shown h _)
    obtain ⟨cause, loaded⟩ := load_of_unreadable unreadable
    rw [loaded]
    rfl

/-- A text at whose end there is no blank is cut off somewhere. If it was an array, what is left of
it gives no images, and that is the only failure. If it was a list of assignments, what is left of
it cannot be read; given for the pools it is warned of, and in every other way the load comes out as
it does without a text for the pools. -/
theorem load_of_cutShort {text cut : String} (short : CutShort cut text) (shown : EndsShown text) :
    ((∃ vs, Value.parse text = .ok (.array vs)) →
      ∀ {properties : Properties}, properties.lookup imagesKey = some cut →
        (load properties).result = .error ⟨[⟨imagesKey,
          if cut = "" then "no image provided" else "cannot parse image data"⟩]⟩) ∧
    ((∃ assignments, PoolAssignment.ofText text = .ok assignments) →
      ∃ fault, PoolAssignment.ofText cut = .error fault ∧
        ∀ {properties others : Properties}, properties.lookup poolsKey = some cut →
          others.lookup poolsKey = none →
          properties.lookup imagesKey = others.lookup imagesKey →
          load properties
            = { load others with events := .poolsUnreadable fault :: (load others).events }) := by
  constructor
  · intro h properties given
    obtain ⟨vs, parsed⟩ := h
    exact load_of_images_cutShort short shown parsed given
  · intro h
    obtain ⟨assignments, read⟩ := h
    obtain ⟨fault, unread⟩ := PoolAssignment.ofText_of_cutShort short shown read
    exact ⟨fault, unread, fun given none same => load_of_poolsUnreadable given unread none same⟩

/-- A text that is an array and a list of assignments, with a character in hexadecimal. -/
def escapedText : String := "[[\"\\u0041\",7] ]"

/-- The text cut off in the middle of the character. -/
def escapedCut : String := "[[\"\\u00"

theorem load_of_cutShort_escaped :
    CutShort escapedCut escapedText ∧ EndsShown escapedText ∧
    (load [(imagesKey, escapedCut)]).result
      = .error ⟨[⟨imagesKey, "cannot parse image data"⟩]⟩ ∧
    ∃ fault, PoolAssignment.ofText escapedCut = .error fault ∧
      load [(imagesKey, "[]"), (poolsKey, escapedCut)]
        = { load [(imagesKey, "[]")] with
            events := .poolsUnreadable fault :: (load [(imagesKey, "[]")]).events } := by
  have short : CutShort escapedCut escapedText := ⟨"41\",7] ]", by decide, by decide⟩
  have shown : EndsShown escapedText := by
    have last : escapedText.toList.getLast? = some ']' := by decide
    intro c same
    rw [last] at same
    cases same
    rfl
  have array : ∃ vs, Value.parse escapedText = .ok (.array vs) := by
    obtain ⟨vs, listed⟩ := exists_ok_of_isSome (x := Value.parse escapedText >>= Value.elements)
      (by decide +kernel)
    obtain ⟨v, parsed, elements⟩ := bind_eq_ok_iff.1 listed
    exact ⟨vs, Value.elements_eq_ok_iff.1 elements ▸ parsed⟩
  have assignments : ∃ assignments, PoolAssignment.ofText escapedText = .ok assignments :=
    exists_ok_of_isSome (by decide +kernel)
  obtain ⟨images, pools⟩ := load_of_cutShort short shown
  obtain ⟨fault, unread, alike⟩ := pools assignments
  refine ⟨short, shown, ?_, fault, unread, alike (by decide) (by decide) (by decide)⟩
  have rejected : (load [(imagesKey, escapedCut)]).result = _ := images array (by decide)
  rwa [if_neg (by decide)] at rejected

end Batch

end CloudImages
