import CloudImages.Proofs.Json.Readings
import Mathlib.Data.List.Induction
import Mathlib.Data.Nat.Digits.Defs
import Mathlib.Data.Set.List

set_option autoImplicit false

/-! # Integers in quotes

A string may stand where an integer belongs. Which texts spell an integer is told by writing them:
blanks, a sign or none, decimal digits with any number of zeros in front, and blanks again
(`Text.Spelling`). A member that holds a text is read as the integer that the text spells, if that
fits a signed word, and is of the wrong type in every other case
(`Value.get_integer_of_string`). -/

namespace CloudImages

namespace Text

/-! ## Spellings -/

/-- What may stand in front of the digits of an integer. -/
inductive Sign where
  | none
  | plus
  | minus

/-- A sign as it is written. -/
def Sign.text : Sign → List Char
  | .none => []
  | .plus => ['+']
  | .minus => ['-']

/-- The integer of a size under a sign. -/
def Sign.apply : Sign → Nat → Int
  | .none, size | .plus, size => size
  | .minus, size => -size

/-- A way to spell an integer: blanks, a sign or none, digits, and blanks again. -/
structure Spelling where
  before : List Char
  sign : Sign
  digits : List (Fin 10)
  after : List Char
  blank_before : ∀ c ∈ before, isBlank c
  digits_ne_nil : digits ≠ []
  blank_after : ∀ c ∈ after, isBlank c

/-- A digit as it is written. -/
def digit (d : Fin 10) : Char :=
  d.val.digitChar

/-- The text that is spelled. -/
def Spelling.text (spelling : Spelling) : List Char :=
  spelling.before ++ (spelling.sign.text ++ spelling.digits.map digit) ++ spelling.after

/-- The integer that is spelled: the last digit counts ones, the one before it tens, and so on. -/
def Spelling.value (spelling : Spelling) : Int :=
  spelling.sign.apply (Nat.ofDigits 10 (spelling.digits.reverse.map Fin.val))

/-! ## Digits -/

theorem isDigit_digit (d : Fin 10) : (digit d).isDigit = true := by
  rw [digit, Nat.isDigit_digitChar]
  exact decide_eq_true d.isLt

theorem exists_digit {c : Char} (h : c.isDigit = true) : ∃ d, digit d = c := by
  have range := toNat_of_isDigit h
  have written : ∀ d : Fin 10, digit d = Char.ofNat (48 + d) := by decide
  refine ⟨⟨c.toNat - 48, by omega⟩, ?_⟩
  rw [written, Nat.add_sub_cancel' range.1, Char.ofNat_toNat]

/-- A text of digits is digits written one after the other. -/
theorem digits_iff_exists_map {cs : List Char} :
    Digits cs ↔ ∃ ds : List (Fin 10), ds ≠ [] ∧ ds.map digit = cs := by
  constructor
  · rintro ⟨some, all⟩
    have written : cs ∈ Set.range (List.map digit) := by
      rw [Set.range_list_map]
      exact fun c there => exists_digit (all c there)
    obtain ⟨ds, rfl⟩ := written
    exact ⟨ds, fun none => some (List.map_eq_nil_iff.2 none), rfl⟩
  · rintro ⟨ds, some, rfl⟩
    exact ⟨fun none => some (List.map_eq_nil_iff.1 none),
      List.forall_mem_map.2 fun d _ => isDigit_digit d⟩

/-- One more digit makes tens of the ones before it. -/
theorem digitsValue_append_digit (cs : List Char) (d : Fin 10) :
    digitsValue (cs ++ [digit d]) = 10 * digitsValue cs + d := by
  rw [digitsValue, Nat.ofDigitChars_append, digit, Nat.ofDigitChars_cons_digitChar_of_lt_ten d.isLt,
    Nat.ofDigitChars_nil, digitsValue]

/-- Digits that are read one after the other count as their places say. -/
theorem digitsValue_map_digit (ds : List (Fin 10)) :
    digitsValue (ds.map digit) = Nat.ofDigits 10 (ds.reverse.map Fin.val) := by
  -- a digit is added behind the others, as the reader takes them
  induction ds using List.reverseRecOn with
  | nil => rfl
  | append_singleton ds d ih =>
    rw [List.map_append, List.map_singleton, digitsValue_append_digit, ih, List.reverse_concat,
      List.map_cons, Nat.ofDigits_cons, Nat.add_comm]

/-! ## Spellings are what is read -/

theorem numeral_iff_exists_sign {cs : List Char} {n : Int} :
    Numeral cs n ↔ ∃ (sign : Sign) (ds : List (Fin 10)), ds ≠ [] ∧
      sign.text ++ ds.map digit = cs ∧
        sign.apply (Nat.ofDigits 10 (ds.reverse.map Fin.val)) = n := by
  constructor
  · intro numeral
    cases numeral with
    | plain digits =>
      obtain ⟨ds, some, rfl⟩ := digits_iff_exists_map.1 digits
      exact ⟨.none, ds, some, rfl, by rw [digitsValue_map_digit, Sign.apply]⟩
    | plus digits =>
      obtain ⟨ds, some, rfl⟩ := digits_iff_exists_map.1 digits
      exact ⟨.plus, ds, some, rfl, by rw [digitsValue_map_digit, Sign.apply]⟩
    | minus digits =>
      obtain ⟨ds, some, rfl⟩ := digits_iff_exists_map.1 digits
      exact ⟨.minus, ds, some, rfl, by rw [digitsValue_map_digit, Sign.apply]⟩
  · rintro ⟨sign, ds, some, rfl, rfl⟩
    have digits : Digits (ds.map digit) := digits_iff_exists_map.2 ⟨ds, some, rfl⟩
    rw [← digitsValue_map_digit]
    cases sign with
    | none => exact .plain digits
    | plus => exact .plus digits
    | minus => exact .minus digits

/-- An integer is read between blanks exactly if the text is a spelling of it. -/
theorem integer?_trim_eq_some_iff_spelled {cs : List Char} {n : Int} :
    integer? (trim cs) = some n ↔
      ∃ spelling : Spelling, spelling.text = cs ∧ spelling.value = n := by
  rw [integer?_trim_eq_some_iff]
  constructor
  · rintro ⟨inner, ⟨before, after, rfl, blankBefore, blankAfter⟩, numeral⟩
    obtain ⟨sign, ds, some, rfl, rfl⟩ := numeral_iff_exists_sign.1 numeral
    exact ⟨⟨before, sign, ds, after, blankBefore, some, blankAfter⟩, rfl, rfl⟩
  · rintro ⟨spelling, rfl, rfl⟩
    exact ⟨_, ⟨spelling.before, spelling.after, rfl, spelling.blank_before, spelling.blank_after⟩,
      numeral_iff_exists_sign.2 ⟨spelling.sign, spelling.digits, spelling.digits_ne_nil, rfl, rfl⟩⟩

/-- The signed words are the integers from -2^63 to 2^63 - 1. -/
theorem exists_toInt_iff {z : Int} :
    (∃ n : Int64, n.toInt = z) ↔ -2 ^ 63 ≤ z ∧ z ≤ 2 ^ 63 - 1 := by
  constructor
  · rintro ⟨n, rfl⟩
    have low := n.le_toInt
    have high := n.toInt_lt
    omega
  · rintro ⟨low, high⟩
    exact ⟨Int64.ofInt z, Int64.toInt_ofInt_of_le low (by omega)⟩

end Text

namespace Json.Value

open Text

/-! ## Members that hold a text -/

theorem readsInteger_string_iff {s : String} {n : Int64} : (string s).ReadsInteger n ↔
    ∃ spelling : Spelling, spelling.text = s.toList ∧ spelling.value = n.toInt := by
  rw [← integer?_trim_eq_some_iff_spelled, integer?_trim_eq_some_iff]
  constructor
  · intro reads
    cases reads with
    | quoted padded numeral => exact ⟨_, padded, numeral⟩
  · rintro ⟨inner, padded, numeral⟩
    exact .quoted padded numeral

theorem accepts_integer_string_iff {s : String} : Expected.integer.Accepts (string s) ↔
    ∃ spelling : Spelling, spelling.text = s.toList ∧
      -2 ^ 63 ≤ spelling.value ∧ spelling.value ≤ 2 ^ 63 - 1 := by
  simp only [Expected.Accepts, readsInteger_string_iff, ← exists_toInt_iff]
  constructor
  · rintro ⟨n, spelling, text, value⟩
    exact ⟨spelling, text, n, value.symm⟩
  · rintro ⟨spelling, text, n, value⟩
    exact ⟨n, spelling, text, value.symm⟩

/-- A member that holds a text is read as an integer exactly if the text spells one from -2^63 to
2^63 - 1, and then as that one. In every other case the member is of the wrong type. -/
theorem get_integer_of_string {v : Value} {key s : String} (there : v.Has key (.string s)) :
    (∀ n, v.get .integer key = .ok n ↔
      ∃ spelling : Spelling, spelling.text = s.toList ∧ spelling.value = n.toInt) ∧
    (v.get .integer key = .error (.wrongType key .integer .string) ↔
      ¬ ∃ spelling : Spelling, spelling.text = s.toList ∧
        -2 ^ 63 ≤ spelling.value ∧ spelling.value ≤ 2 ^ 63 - 1) := by
  rw [get_of_field?_some (field?_eq_some_iff.2 there)]
  constructor
  · intro n
    rw [accept_eq_ok_iff, Coercion.integer_read?_eq_some_iff_reads, readsInteger_string_iff]
  · rw [accept_eq_error_iff Coercion.integer_faithful, ← accepts_integer_string_iff]
    exact and_iff_left rfl

/-- The least signed word, with blanks around it and zeros in front. -/
def spelledLeast : Spelling where
  before := ['\u00A0']
  sign := .minus
  digits := [0, 0, 9, 2, 2, 3, 3, 7, 2, 0, 3, 6, 8, 5, 4, 7, 7, 5, 8, 0, 8]
  after := ['\n']
  blank_before := List.forall_mem_singleton.2 (by decide)
  digits_ne_nil := by decide
  blank_after := List.forall_mem_singleton.2 (by decide)

theorem get_integer_of_string_least :
    (object [("Count", .string "\u00A0-009223372036854775808\n")]).get .integer "Count"
      = .ok Int64.minValue ∧
    (object [("Count", .string "9223372036854775808")]).get .integer "Count"
      = .error (.wrongType "Count" .integer .string) := by
  have holds (s : String) : (object [("Count", .string s)]).Has "Count" (.string s) :=
    ⟨_, rfl, rfl, nofun⟩
  constructor
  · obtain ⟨accepted, -⟩ := get_integer_of_string (holds "\u00A0-009223372036854775808\n")
    exact (accepted _).2 ⟨spelledLeast, by decide +kernel, by decide +kernel⟩
  · obtain ⟨-, refused⟩ := get_integer_of_string (holds "9223372036854775808")
    refine refused.2 ?_
    rintro ⟨spelling, text, -, high⟩
    have read := integer?_trim_eq_some_iff_spelled.2 ⟨spelling, text, rfl⟩
    have tooGreat : integer? (trim "9223372036854775808".toList) = some (2 ^ 63) := by
      decide +kernel
    rw [tooGreat, Option.some.injEq] at read
    omega

end Json.Value

end CloudImages
