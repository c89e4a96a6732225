import CloudImages.Text.Numeral

set_option autoImplicit false

/-! # Numerals between blanks

Which texts a number is read from: decimal digits, a sign in front of them or none, and blanks
around it all. The conditions say so without the readers; `integer?_trim_eq_some_iff` says that the
reader of integers goes by them, and `word64?_trim_eq_some_iff` that the reader of words does. -/

namespace CloudImages.Text

/-! ## Numerals -/

/-- A text of decimal digits, one at least. -/
def Digits (cs : List Char) : Prop :=
  cs ≠ [] ∧ ∀ c ∈ cs, c.isDigit

/-- A text is decimal digits with a sign in front of them or none, and stands for the integer. -/
inductive Numeral : List Char → Int → Prop where
  | plain {ds : List Char} (digits : Digits ds) : Numeral ds (digitsValue ds)
  | plus {ds : List Char} (digits : Digits ds) : Numeral ('+' :: ds) (digitsValue ds)
  | minus {ds : List Char} (digits : Digits ds) : Numeral ('-' :: ds) (-digitsValue ds)

/-- A text is decimal digits with a plus sign in front of them or none, and stands for the
number. -/
inductive Unsigned : List Char → Nat → Prop where
  | plain {ds : List Char} (digits : Digits ds) : Unsigned ds (digitsValue ds)
  | plus {ds : List Char} (digits : Digits ds) : Unsigned ('+' :: ds) (digitsValue ds)

theorem Unsigned.numeral {cs : List Char} {n : Nat} (h : Unsigned cs n) : Numeral cs n := by
  cases h with
  | plain digits => exact .plain digits
  | plus digits => exact .plus digits

/-- Digits never begin with a sign. -/
theorem Digits.ne_cons {ds : List Char} (digits : Digits ds) {c : Char} (h : c.isDigit = false)
    (rest : List Char) : ds ≠ c :: rest := by
  rintro rfl
  exact absurd (digits.2 c List.mem_cons_self) (by simp [h])

theorem unsigned?_eq_some_iff {cs : List Char} {n : Nat} :
    unsigned? cs = some n ↔ Digits cs ∧ digitsValue cs = n := by
  rw [unsigned?, Option.ite_none_right_eq_some, Option.some.injEq, List.all_eq_true]
  rfl

theorem natural?_eq_some_iff {cs : List Char} {n : Nat} :
    natural? cs = some n ↔ Unsigned cs n := by
  refine ⟨fun read => ?_, fun unsigned => ?_⟩
  · unfold natural? at read
    split at read
    · obtain ⟨digits, rfl⟩ := unsigned?_eq_some_iff.1 read
      exact .plus digits
    · obtain ⟨digits, rfl⟩ := unsigned?_eq_some_iff.1 read
      exact .plain digits
  · cases unsigned with
    | plain digits =>
      rw [natural?.eq_2 _ (digits.ne_cons (by decide)), unsigned?_eq_some_iff.2 ⟨digits, rfl⟩]
    | plus digits => rw [natural?, unsigned?_eq_some_iff.2 ⟨digits, rfl⟩]

theorem numeral_of_integer? {cs : List Char} {n : Int} (h : integer? cs = some n) :
    Numeral cs n := by
  unfold integer? at h
  split at h
  · obtain ⟨m, read, rfl⟩ := Option.map_eq_some_iff.1 h
    obtain ⟨digits, rfl⟩ := unsigned?_eq_some_iff.1 read
    exact .minus digits
  · obtain ⟨m, read, rfl⟩ := Option.map_eq_some_iff.1 h
    exact (natural?_eq_some_iff.1 read).numeral

theorem Numeral.integer? {cs : List Char} {n : Int} (h : Numeral cs n) : integer? cs = some n := by
  cases h with
  | plain digits =>
    rw [integer?.eq_2 _ (digits.ne_cons (by decide)), natural?_eq_some_iff.2 (.plain digits)]
    rfl
  | plus digits =>
    rw [integer?.eq_2 _ (by simp), natural?_eq_some_iff.2 (.plus digits)]
    rfl
  | minus digits =>
    rw [Text.integer?, unsigned?_eq_some_iff.2 ⟨digits, rfl⟩]
    rfl

/-! ## Blanks around a text -/

/-- A text is another one with blanks around it, if any. -/
def Padded (inner cs : List Char) : Prop :=
  ∃ before after, cs = before ++ inner ++ after ∧
    (∀ c ∈ before, isBlank c) ∧ ∀ c ∈ after, isBlank c

theorem padded_trim (cs : List Char) : Padded (trim cs) cs := by
  refine ⟨cs.takeWhile isBlank, ((cs.dropWhile isBlank).reverse.takeWhile isBlank).reverse,
    ?_, ?_, ?_⟩
  · rw [List.append_assoc, trim, ← List.reverse_append, List.takeWhile_append_dropWhile,
      List.reverse_reverse, List.takeWhile_append_dropWhile]
  · exact fun c there => List.all_eq_true.1 List.all_takeWhile c there
  · exact fun c there => List.all_eq_true.1 List.all_takeWhile c (List.mem_reverse.1 there)

/-- Only what stands around a text without blanks is cut off. -/
theorem Padded.trim {inner cs : List Char} (h : Padded inner cs)
    (noBlanks : ∀ c ∈ inner, isBlank c = false) (some : inner ≠ []) : trim cs = inner := by
  obtain ⟨before, after, rfl, blanksBefore, blanksAfter⟩ := h
  have keeps : ∀ ds rest : List Char, (∀ c ∈ ds, isBlank c = false) → ds ≠ [] →
      (ds ++ rest).dropWhile isBlank = ds ++ rest := by
    intro ds rest noBlank some
    obtain ⟨c, tail, rfl⟩ := List.exists_cons_of_ne_nil some
    rw [List.cons_append, List.dropWhile_cons_of_neg (by simp [noBlank c])]
  rw [Text.trim, List.append_assoc, List.dropWhile_append_of_pos blanksBefore,
    keeps inner after noBlanks some, List.reverse_append,
    List.dropWhile_append_of_pos fun c there => blanksAfter c (List.mem_reverse.1 there)]
  have reversed := keeps inner.reverse [] (fun c there => noBlanks c (List.mem_reverse.1 there))
    (by simpa using some)
  rw [List.append_nil] at reversed
  rw [reversed, List.reverse_reverse]

/-! ## Both -/

/-- None of the visible characters of ASCII is a blank. -/
theorem isBlank_of_visible {c : Char} (low : 0x21 ≤ c.toNat) (high : c.toNat ≤ 0x7E) :
    isBlank c = false := by
  simp only [isBlank, blankRanges, List.any_cons, List.any_nil, Bool.or_false,
    Bool.or_eq_false_iff, Bool.and_eq_false_iff, decide_eq_false_iff_not]
  omega

theorem isBlank_of_isDigit {c : Char} (h : c.isDigit = true) : isBlank c = false := by
  have range := toNat_of_isDigit h
  exact isBlank_of_visible (by omega) (by omega)

theorem Numeral.isBlank_eq_false {cs : List Char} {n : Int} (h : Numeral cs n) :
    ∀ c ∈ cs, isBlank c = false := by
  cases h with
  | plain digits => exact fun c there => isBlank_of_isDigit (digits.2 c there)
  | plus digits | minus digits =>
    exact List.forall_mem_cons.2 ⟨by decide, fun c there => isBlank_of_isDigit (digits.2 c there)⟩

theorem Numeral.ne_nil {cs : List Char} {n : Int} (h : Numeral cs n) : cs ≠ [] := by
  cases h with
  | plain digits => exact digits.1
  | plus digits | minus digits => exact List.cons_ne_nil _ _

theorem integer?_trim_eq_some_iff {cs : List Char} {n : Int} :
    integer? (trim cs) = some n ↔ ∃ inner, Padded inner cs ∧ Numeral inner n := by
  constructor
  · exact fun read => ⟨trim cs, padded_trim cs, numeral_of_integer? read⟩
  · rintro ⟨inner, padded, numeral⟩
    rw [padded.trim numeral.isBlank_eq_false numeral.ne_nil]
    exact numeral.integer?

theorem natural?_trim_eq_some_iff {cs : List Char} {n : Nat} :
    natural? (trim cs) = some n ↔ ∃ inner, Padded inner cs ∧ Unsigned inner n := by
  refine ⟨fun read => ⟨trim cs, padded_trim cs, natural?_eq_some_iff.1 read⟩, ?_⟩
  rintro ⟨inner, padded, unsigned⟩
  rw [padded.trim unsigned.numeral.isBlank_eq_false unsigned.numeral.ne_nil]
  exact natural?_eq_some_iff.2 unsigned

/-- A word is read from its number, which fits. -/
theorem word64?_eq_some_iff {cs : List Char} {word : UInt64} :
    word64? cs = some word ↔ natural? cs = some word.toNat := by
  rw [word64?, Option.bind_eq_some_iff]
  refine ⟨?_, fun read => ⟨word.toNat, read, ?_⟩⟩
  · rintro ⟨n, read, fits⟩
    rw [Option.ite_none_right_eq_some, Option.some.injEq] at fits
    obtain ⟨bound, rfl⟩ := fits
    rw [read, UInt64.toNat_ofNat_of_lt' bound]
  · rw [if_pos word.toNat_lt, UInt64.ofNat_toNat]

theorem word64?_trim_eq_some_iff {cs : List Char} {word : UInt64} :
    word64? (trim cs) = some word ↔ ∃ inner, Padded inner cs ∧ Unsigned inner word.toNat :=
  word64?_eq_some_iff.trans natural?_trim_eq_some_iff

/-! ## Integers as they are written -/

theorem spell_eq_toString (n : Int) : String.ofList (spell n) = toString n := by
  cases n with
  | ofNat n =>
    have notNegative : ¬ Int.ofNat n < 0 := Int.not_lt.2 (Int.natCast_nonneg n)
    rw [spell, if_neg notNegative, digits, ← Nat.repr_eq_ofList_toDigits]
    rfl
  | negSucc n =>
    rw [spell, if_pos (Int.negSucc_lt_zero n), digits, String.ofList_cons,
      ← Nat.repr_eq_ofList_toDigits]
    rfl

theorem numeral_spell (n : Int) : Numeral (spell n) n :=
  numeral_of_integer? (integer?_spell n)

/-- There is nothing to be cut off from an integer as it is written. -/
theorem trim_spell (n : Int) : trim (spell n) = spell n := by
  have padded : Padded (spell n) (spell n) :=
    ⟨[], [], by simp, List.forall_mem_nil _, List.forall_mem_nil _⟩
  exact padded.trim (numeral_spell n).isBlank_eq_false (numeral_spell n).ne_nil

end CloudImages.Text
