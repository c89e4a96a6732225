import CloudImages.Client
import CloudImages.Proofs.Text.Numerals
import Mathlib.Computability.Language

set_option autoImplicit false

/-! # Addresses by their grammar

An address is a scheme, the separator `://` and a rest without white space (`Uri.Splits`). Whether a
text can be split like that is decided in one pass, which takes the scheme to be as long as it can
be. That misses no way to split the text, since no character of a scheme is a colon: there is at
most one such way, however often the separator comes up again in the rest (`Uri.isValid_iff`,
`Uri.Splits.unique`). The texts that can be split are those that a regular pattern matches
(`Uri.isValid_iff_mem_pattern`). -/

namespace CloudImages

namespace Uri

/-! ## The grammar -/

/-- The characters of a scheme behind its first letter. -/
def InScheme (c : Char) : Prop :=
  c.isAlphanum ∨ c = '+' ∨ c = '.' ∨ c = '-'

/-- A scheme is a letter of ASCII, and behind it letters and digits, pluses, dots and hyphens. -/
def IsScheme (scheme : List Char) : Prop :=
  ∃ first others, scheme = first :: others ∧ first.isAlpha ∧ ∀ c ∈ others, InScheme c

/-- Behind the separator there is something, and no white space in it. -/
def IsRest (rest : List Char) : Prop :=
  rest ≠ [] ∧ ∀ c ∈ rest, Text.isBlank c = false

instance (c : Char) : Decidable (InScheme c) :=
  inferInstanceAs (Decidable (_ ∨ _))

-- in the next two the instance for all characters of a text is named, since one that goes through
-- all characters there are would do as well
instance : (scheme : List Char) → Decidable (IsScheme scheme)
  | [] => isFalse fun ⟨_, _, nil, _⟩ => absurd nil (List.cons_ne_nil _ _).symm
  | first :: others =>
    have : Decidable (∀ c ∈ others, InScheme c) := List.decidableBAll InScheme others
    decidable_of_iff (first.isAlpha ∧ ∀ c ∈ others, InScheme c) (by simp [IsScheme])

instance (rest : List Char) : Decidable (IsRest rest) :=
  have : Decidable (∀ c ∈ rest, Text.isBlank c = false) := List.decidableBAll _ rest
  inferInstanceAs (Decidable (_ ∧ _))

/-- An address is split at its separator into a scheme and the rest. -/
structure Splits (uri scheme rest : String) : Prop where
  joined : uri = scheme ++ "://" ++ rest
  scheme : IsScheme scheme.toList
  rest : IsRest rest.toList

/-! ## Characters -/

/-- The letters of ASCII stand in two runs, one for either case. -/
theorem isAlpha_iff_toNat {c : Char} :
    c.isAlpha ↔ (65 ≤ c.toNat ∧ c.toNat ≤ 90) ∨ (97 ≤ c.toNat ∧ c.toNat ≤ 122) := by
  change (decide (65 ≤ c.val ∧ c.val ≤ 90) || (decide (97 ≤ c.val) && decide (c.val ≤ 122))) ↔ _
  simp only [Bool.or_eq_true, Bool.and_eq_true, decide_eq_true_eq, UInt32.le_iff_toNat_le]
  rfl

theorem isLetter_iff {c : Char} : isLetter c ↔ c.isAlpha := by
  rw [isAlpha_iff_toNat]
  simp only [isLetter, Char.le_def, Bool.or_eq_true, Bool.and_eq_true, decide_eq_true_eq,
    UInt32.le_iff_toNat_le]
  rfl

theorem isSchemeChar_iff {c : Char} : isSchemeChar c ↔ InScheme c := by
  simp only [isSchemeChar, InScheme, Char.isAlphanum, Bool.or_eq_true, isLetter_iff, beq_iff_eq,
    or_assoc]

/-- The characters of a scheme are visible ones, and none of them is a colon. -/
theorem InScheme.visible {c : Char} (h : InScheme c) :
    0x21 ≤ c.toNat ∧ c.toNat ≤ 0x7E ∧ c ≠ ':' := by
  rcases h with alphanum | rfl | rfl | rfl
  · have range := (Bool.or_eq_true_iff.1 alphanum).imp isAlpha_iff_toNat.1 Text.toNat_of_isDigit
    refine ⟨by omega, by omega, ?_⟩
    rintro rfl
    exact absurd alphanum (by decide)
  all_goals decide

theorem IsScheme.visible {scheme : List Char} (h : IsScheme scheme) :
    ∀ c ∈ scheme, 0x21 ≤ c.toNat ∧ c.toNat ≤ 0x7E ∧ c ≠ ':' := by
  obtain ⟨first, others, rfl, letter, inScheme⟩ := h
  refine List.forall_mem_cons.2 ⟨?_, fun c there => (inScheme c there).visible⟩
  exact InScheme.visible (Or.inl (Bool.or_eq_true_iff.2 (Or.inl letter)))

/-! ## The test -/

theorem isAfterScheme_iff {cs : List Char} :
    isAfterScheme cs ↔ ∃ rest, cs = "://".toList ++ rest ∧ IsRest rest := by
  constructor
  · intro h
    unfold isAfterScheme at h
    split at h
    · next rest => exact ⟨rest, rfl, by simpa [IsRest] using h⟩
    · exact absurd h (by simp)
  · rintro ⟨rest, rfl, some, noBlank⟩
    simpa [isAfterScheme, some] using noBlank

/-- A text is an address exactly when it can be split. -/
theorem isValid_iff {uri : String} :
    isValid uri.toList ↔ ∃ scheme rest, Splits uri scheme rest := by
  constructor
  · intro h
    generalize whole : uri.toList = cs at h
    cases cs with
    | nil => exact absurd h (by simp [isValid])
    | cons first tail =>
      obtain ⟨letter, after⟩ := Bool.and_eq_true_iff.1 h
      obtain ⟨rest, found, isRest⟩ := isAfterScheme_iff.1 after
      refine ⟨String.ofList (first :: tail.takeWhile isSchemeChar), String.ofList rest, ?_, ?_, ?_⟩
      · rw [← String.toList_inj, whole]
        simp only [String.toList_append, String.toList_ofList, List.cons_append, List.append_assoc]
        rw [← found, List.takeWhile_append_dropWhile]
      · rw [String.toList_ofList]
        refine ⟨first, _, rfl, isLetter_iff.1 letter, fun c there => isSchemeChar_iff.1 ?_⟩
        exact List.all_eq_true.1 List.all_takeWhile c there
      · rwa [String.toList_ofList]
  · rintro ⟨scheme, rest, rfl, ⟨first, others, isScheme, letter, inScheme⟩, isRest⟩
    have schemeChars : ∀ c ∈ others, isSchemeChar c :=
      fun c there => isSchemeChar_iff.2 (inScheme c there)
    have stops : (others ++ ("://".toList ++ rest.toList)).dropWhile isSchemeChar
        = "://".toList ++ rest.toList := by
      rw [List.dropWhile_append_of_pos schemeChars]
      exact List.dropWhile_cons_of_neg (by decide)
    rw [String.toList_append, String.toList_append, isScheme, List.append_assoc, List.cons_append]
    refine Bool.and_eq_true_iff.2 ⟨isLetter_iff.2 letter, ?_⟩
    rw [stops]
    exact isAfterScheme_iff.2 ⟨rest.toList, rfl, isRest⟩

/-! ## Ways to split -/

/-- No character of a scheme is a colon, so the scheme is what stands before the first one. -/
theorem Splits.takeWhile_eq {uri scheme rest : String} (h : Splits uri scheme rest) :
    uri.toList.takeWhile (· != ':') = scheme.toList := by
  have noColon : ∀ c ∈ scheme.toList, c != ':' :=
    fun c there => bne_iff_ne.2 (h.scheme.visible c there).2.2
  have stops : ("://".toList ++ rest.toList).takeWhile (· != ':') = [] :=
    List.takeWhile_cons_of_neg (by decide)
  rw [h.joined, String.toList_append, String.toList_append, List.append_assoc,
    List.takeWhile_append_of_pos noColon, stops, List.append_nil]

theorem Splits.unique {uri scheme rest scheme' rest' : String} (h : Splits uri scheme rest)
    (h' : Splits uri scheme' rest') : scheme = scheme' ∧ rest = rest' := by
  have schemes : scheme = scheme' := by
    rw [← String.toList_inj, ← h.takeWhile_eq, h'.takeWhile_eq]
  subst schemes
  have same := h.joined.symm.trans h'.joined
  exact ⟨rfl, (String.append_right_inj _).1 same⟩

theorem Splits.isBlank_eq_false {uri scheme rest : String} (h : Splits uri scheme rest) :
    ∀ c ∈ uri.toList, Text.isBlank c = false := by
  have separator : IsRest "://".toList := by decide
  rw [h.joined, String.toList_append, String.toList_append, List.forall_mem_append,
    List.forall_mem_append]
  refine ⟨⟨fun c there => ?_, separator.2⟩, h.rest.2⟩
  obtain ⟨low, high, -⟩ := h.scheme.visible c there
  exact Text.isBlank_of_visible low high

/-! ## The pattern

The grammar once more, as the regular language of the pattern
`^[A-Za-z][A-Za-z0-9+.-]*://\S+$`. -/

open scoped Computability

/-- The texts of one character of a class. -/
def oneOf (inClass : Char → Prop) : Language Char :=
  {word | ∃ c, inClass c ∧ word = [c]}

/-- The characters that are no white space. -/
def visible : Language Char :=
  oneOf fun c => Text.isBlank c = false

/-- The texts that the pattern of an address matches. -/
def pattern : Language Char :=
  oneOf (fun c => c.isAlpha) * (oneOf InScheme)∗ * {"://".toList} * (visible * visible∗)

theorem mem_kstar_oneOf {inClass : Char → Prop} {word : List Char} :
    word ∈ (oneOf inClass)∗ ↔ ∀ c ∈ word, inClass c := by
  rw [Language.mem_kstar]
  constructor
  · rintro ⟨parts, rfl, each⟩ c there
    obtain ⟨part, member, there⟩ := List.mem_flatten.1 there
    obtain ⟨c', inClass, rfl⟩ := each part member
    rwa [List.mem_singleton.1 there]
  · intro each
    refine ⟨word.map fun c => [c], by rw [← List.flatMap_def, List.flatMap_singleton'], ?_⟩
    exact List.forall_mem_map.2 fun c there => ⟨c, each c there, rfl⟩

/-- A text of a character and more of them is a character with such a text behind it. -/
theorem mem_oneOf_mul_kstar {first others : Char → Prop} {word : List Char} :
    word ∈ oneOf first * (oneOf others)∗ ↔
      ∃ c rest, word = c :: rest ∧ first c ∧ ∀ d ∈ rest, others d := by
  rw [Language.mem_mul]
  constructor
  · rintro ⟨_, ⟨c, isFirst, rfl⟩, rest, inStar, rfl⟩
    exact ⟨c, rest, rfl, isFirst, mem_kstar_oneOf.1 inStar⟩
  · rintro ⟨c, rest, rfl, isFirst, each⟩
    exact ⟨[c], ⟨c, isFirst, rfl⟩, rest, mem_kstar_oneOf.2 each, rfl⟩

theorem isRest_iff_mem {rest : List Char} : IsRest rest ↔ rest ∈ visible * visible∗ := by
  unfold visible
  rw [mem_oneOf_mul_kstar, IsRest]
  constructor
  · rintro ⟨some, noBlank⟩
    obtain ⟨c, others, rfl⟩ := List.exists_cons_of_ne_nil some
    exact ⟨c, others, rfl, List.forall_mem_cons.1 noBlank⟩
  · rintro ⟨c, others, rfl, noBlank⟩
    exact ⟨List.cons_ne_nil _ _, List.forall_mem_cons.2 noBlank⟩

/-- The test accepts the texts that the pattern matches, and no others. -/
theorem isValid_iff_mem_pattern {uri : String} : isValid uri.toList ↔ uri.toList ∈ pattern := by
  rw [isValid_iff, pattern, Language.mem_mul]
  constructor
  · rintro ⟨scheme, rest, rfl, isScheme, isRest⟩
    refine ⟨scheme.toList ++ "://".toList, ?_, rest.toList, isRest_iff_mem.1 isRest, ?_⟩
    · exact Language.append_mem_mul (mem_oneOf_mul_kstar.2 isScheme) rfl
    · rw [String.toList_append, String.toList_append]
  · rintro ⟨_, ⟨scheme, isScheme, _, rfl, rfl⟩, rest, isRest, whole⟩
    refine ⟨String.ofList scheme, String.ofList rest, ?_, ?_, ?_⟩
    · rw [← String.toList_inj, ← whole]
      simp only [String.toList_append, String.toList_ofList]
    · rw [String.toList_ofList]
      exact mem_oneOf_mul_kstar.1 isScheme
    · rw [String.toList_ofList]
      exact isRest_iff_mem.2 isRest

end Uri

namespace Client

/-- Settings are made for an address exactly if it is a scheme, the separator and a rest without
white space, and they keep it as it is; otherwise the error does. There is at most one way to split
an address, and no white space anywhere in it. -/
theorem create_iff_splits (uri : String) :
    (∀ client, create uri = .ok client ↔ (∃ scheme rest, Uri.Splits uri scheme rest) ∧
      client = { uri, tls := false, poolSize := 1, timeout := defaultTimeout }) ∧
    (∀ error, create uri = .error error ↔ (¬ ∃ scheme rest, Uri.Splits uri scheme rest) ∧
      error = .invalidUri uri) ∧
    (∀ {scheme rest scheme' rest'}, Uri.Splits uri scheme rest → Uri.Splits uri scheme' rest' →
      scheme = scheme' ∧ rest = rest') ∧
    ∀ {client}, create uri = .ok client → ∀ c ∈ client.uri.toList, Text.isBlank c = false := by
  have created : ∀ client, create uri = .ok client ↔
      (∃ scheme rest, Uri.Splits uri scheme rest) ∧
      client = { uri, tls := false, poolSize := 1, timeout := defaultTimeout } := by
    intro client
    rw [← Uri.isValid_iff, create]
    split
    · next valid => simp [valid, eq_comm]
    · next invalid => simp [invalid]
  refine ⟨created, fun error => ?_, fun h h' => h.unique h', fun {client} accepted => ?_⟩
  · rw [← Uri.isValid_iff, create]
    split
    · next valid => simp [valid]
    · next invalid => simp [invalid, eq_comm]
  · obtain ⟨⟨scheme, rest, splits⟩, rfl⟩ := (created client).1 accepted
    exact splits.isBlank_eq_false

theorem create_iff_splits_twoSeparators :
    create "tcp://a://b"
      = .ok { uri := "tcp://a://b", tls := false, poolSize := 1, timeout := defaultTimeout } ∧
    (∀ scheme rest, Uri.Splits "tcp://a://b" scheme rest → scheme = "tcp" ∧ rest = "a://b") ∧
    create "tcp://a\n" = .error (.invalidUri "tcp://a\n") := by
  obtain ⟨created, -, unique, -⟩ := create_iff_splits "tcp://a://b"
  have splits : Uri.Splits "tcp://a://b" "tcp" "a://b" := ⟨by decide, by decide, by decide⟩
  refine ⟨(created _).2 ⟨⟨_, _, splits⟩, rfl⟩, fun scheme rest other => unique other splits, ?_⟩
  refine ((create_iff_splits "tcp://a\n").2.1 _).2 ⟨?_, rfl⟩
  rintro ⟨scheme, rest, other⟩
  exact absurd (other.isBlank_eq_false '\n' (by decide)) (by decide)

end Client

end CloudImages
