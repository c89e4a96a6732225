import CloudImages.Text.Blank

set_option autoImplicit false

/-! # Decimal numerals

Whole numbers written in decimal: how they are spelled, and which texts spell one. A text that is
read may carry a sign and any number of leading zeros; a text that is written carries a sign only
when the number is negative, and no leading zero. `natural?_digits` and `integer?_spell` say that
what is written is read back. -/

namespace CloudImages.Text

/-! ## Writing -/

/-- The decimal digits of a natural number, without leading zeros. -/
def digits (n : Nat) : List Char :=
  Nat.toDigits 10 n

theorem isDigit_of_mem_digits {n : Nat} {c : Char} (h : c ∈ digits n) : c.isDigit = true :=
  Nat.isDigit_of_mem_toDigits (by decide) (by decide) h

/-- The decimal digits stand next to each other in ASCII. -/
theorem toNat_of_isDigit {c : Char} (h : c.isDigit = true) : 48 ≤ c.toNat ∧ c.toNat ≤ 57 := by
  simpa [Char.isDigit, UInt32.le_iff_toNat_le] using h

theorem digits_ne_nil (n : Nat) : digits n ≠ [] := Nat.toDigits_ne_nil

/-- No number but zero is spelled with a leading zero. -/
theorem eq_zero_of_digits_eq_cons {n : Nat} {rest : List Char} (h : digits n = '0' :: rest) :
    n = 0 := by
  induction n using Nat.strongRecOn generalizing rest with
  | ind n ih =>
    rw [digits, Nat.toDigits_eq_if (by decide)] at h
    split at h
    · next small =>
      have zero : ∀ d < 10, d.digitChar = '0' → d = 0 := by decide
      exact zero n small (List.cons.inj h).1
    · next large =>
      obtain ⟨c, tail, start⟩ := List.exists_cons_of_ne_nil (digits_ne_nil (n / 10))
      rw [← digits, start, List.cons_append] at h
      have none : n / 10 = 0 := ih (n / 10) (by omega) ((List.cons.inj h).1 ▸ start)
      omega

/-- An integer in decimal, with a minus sign if it is negative. -/
def spell (n : Int) : List Char :=
  if n < 0 then '-' :: digits n.natAbs else digits n.natAbs

/-! ## Reading -/

/-- The number that a run of decimal digits spells. -/
def digitsValue (ds : List Char) : Nat :=
  Nat.ofDigitChars 10 ds 0

theorem digitsValue_digits (n : Nat) : digitsValue (digits n) = n :=
  Nat.ofDigitChars_toDigits (by decide) (by decide)

/-- Reads one or more decimal digits that fill the whole text. -/
def unsigned? (cs : List Char) : Option Nat :=
  if cs ≠ [] ∧ cs.all Char.isDigit then some (digitsValue cs) else none

/-- Reads a natural number: digits with an optional plus sign. -/
def natural? : List Char → Option Nat
  | '+' :: rest => unsigned? rest
  | cs => unsigned? cs

/-- Reads an integer: digits with an optional sign. -/
def integer? : List Char → Option Int
  | '-' :: rest => (unsigned? rest).map fun (n : Nat) => -(n : Int)
  | cs => (natural? cs).map Int.ofNat

/-! ## What is written is read back -/

theorem unsigned?_digits (n : Nat) : unsigned? (digits n) = some n := by
  have all : (digits n).all Char.isDigit = true :=
    List.all_eq_true.2 fun _ h => isDigit_of_mem_digits h
  simp [unsigned?, digits_ne_nil, all, digitsValue_digits]

/-- Digits never begin with a sign. -/
theorem digits_ne_cons {n : Nat} {c : Char} (h : c.isDigit = false) (rest : List Char) :
    digits n ≠ c :: rest := by
  intro same
  have : c.isDigit = true := isDigit_of_mem_digits (n := n) (by rw [same]; exact List.mem_cons_self)
  simp [h] at this

theorem natural?_digits (n : Nat) : natural? (digits n) = some n := by
  rw [natural?.eq_2 _ (fun rest => digits_ne_cons (by decide) rest), unsigned?_digits]

theorem integer?_spell (n : Int) : integer? (spell n) = some n := by
  unfold spell
  split
  · rw [integer?, unsigned?_digits, Option.map_some]
    congr 1
    omega
  · rw [integer?.eq_2 _ (fun rest => digits_ne_cons (by decide) rest), natural?_digits,
      Option.map_some]
    congr 1
    exact Int.natAbs_of_nonneg (by omega)

/-! ## Words of the machine -/

/-- Reads a natural number that fits a word of 64 bits. -/
def word64? (cs : List Char) : Option UInt64 :=
  (natural? cs).bind fun n => if n < 0x10000000000000000 then some (UInt64.ofNat n) else none

/-- An integer as a signed word of 64 bits, if it fits. -/
def int64? (n : Int) : Option Int64 :=
  if -0x8000000000000000 ≤ n ∧ n < 0x8000000000000000 then some (Int64.ofInt n) else none

theorem toInt_of_int64? {n : Int} {w : Int64} (h : int64? n = some w) : w.toInt = n := by
  simp only [int64?] at h
  split at h
  · next range =>
    cases h
    exact Int64.toInt_ofInt_of_le range.1 range.2
  · exact absurd h (by simp)

theorem int64?_toInt (w : Int64) : int64? w.toInt = some w := by
  rw [int64?, if_pos ⟨w.le_toInt, w.toInt_lt⟩, Int64.ofInt_toInt]

end CloudImages.Text
