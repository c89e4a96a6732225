import CloudImages.Json.Lexeme.Scan
import CloudImages.Json.Writer

set_option autoImplicit false

/-! # The lexemes of a written document

A written document is cut up into the lexemes from which it was written (`Value.scan_text`). A
bracket, a comma, a colon, a word or a string ends by itself, whatever stands behind it. A number
ends only where nothing stands behind it that could belong to it; in a document that is a comma, a
closing bracket or the end of the text, so two numbers never meet. -/

namespace CloudImages.Json

namespace Lexeme

/-! ## Where a number ends -/

/-- A text begins with nothing that could belong to a number in front of it. -/
def EndsNumber (rest : List Char) : Prop :=
  ∀ c, rest.head? = some c → c.isDigit = false ∧ c ≠ '.' ∧ c ≠ 'e' ∧ c ≠ 'E'

theorem endsNumber_nil : EndsNumber [] := by
  simp [EndsNumber]

theorem endsNumber_cons {c : Char} (digit : c.isDigit = false) (point : c ≠ '.')
    (small : c ≠ 'e') (capital : c ≠ 'E') (rest : List Char) : EndsNumber (c :: rest) := by
  intro d same
  cases same
  exact ⟨digit, point, small, capital⟩

theorem endsNumber_comma (rest : List Char) : EndsNumber (',' :: rest) :=
  endsNumber_cons (by decide) (by decide) (by decide) (by decide) rest

theorem endsNumber_closing (b : Bracket) (rest : List Char) :
    EndsNumber ((closing b).text ++ rest) := by
  cases b <;> exact endsNumber_cons (by decide) (by decide) (by decide) (by decide) rest

/-! ## Numbers -/

theorem scanDigits_append {ds rest : List Char} (some : ds ≠ [])
    (all : ∀ c ∈ ds, c.isDigit = true) (ends : EndsNumber rest) :
    scanDigits (ds ++ rest) = .ok (ds, rest) := by
  cases ds with
  | nil => exact absurd rfl some
  | cons c tail =>
    have others : ∀ c ∈ tail, c.isDigit = true := fun d h => all d (List.mem_cons_of_mem c h)
    have none : rest.takeWhile Char.isDigit = [] ∧ rest.dropWhile Char.isDigit = rest := by
      cases rest with
      | nil => exact ⟨rfl, rfl⟩
      | cons d more => simp [(ends d rfl).1]
    rw [List.cons_append, scanDigits, if_pos (all c List.mem_cons_self),
      List.takeWhile_append_of_pos others, List.dropWhile_append_of_pos others, none.1, none.2,
      List.append_nil]

theorem scanWhole_append (n : Nat) {rest : List Char} (ends : EndsNumber rest) :
    scanWhole (Text.digits n ++ rest) = .ok (Text.digits n, rest) := by
  have plain : scanDigits (Text.digits n ++ rest) = .ok (Text.digits n, rest) :=
    scanDigits_append (Text.digits_ne_nil n) (fun c => Text.isDigit_of_mem_digits) ends
  cases start : Text.digits n with
  | nil => exact absurd start (Text.digits_ne_nil n)
  | cons c tail =>
    rw [start] at plain
    by_cases zero : c = '0'
    · -- a leading zero is all there is, so no digit stands behind it
      subst zero
      obtain rfl := Text.eq_zero_of_digits_eq_cons start
      obtain rfl : tail = [] := (List.cons.inj start).2.symm
      have last : rest.head?.any Char.isDigit = false := by
        cases rest with
        | nil => rfl
        | cons d more => exact (ends d rfl).1
      simp [scanWhole, last]
    · rw [List.cons_append, scanWhole.eq_2 _ fun more same => zero (List.cons.inj same).1]
      exact plain

theorem scanFraction_of_endsNumber {rest : List Char} (ends : EndsNumber rest) :
    scanFraction rest = .ok ([], rest) := by
  rw [scanFraction.eq_2 rest]
  rintro more rfl
  exact (ends '.' rfl).2.1 rfl

theorem scanExponent_of_endsNumber {rest : List Char} (ends : EndsNumber rest) :
    scanExponent rest = .ok (none, rest) := by
  cases rest with
  | nil => rfl
  | cons c more =>
    obtain ⟨-, -, small, capital⟩ := ends c rfl
    rw [scanExponent, if_neg (not_or.2 ⟨small, capital⟩)]

theorem scanUnsigned_append (negative : Bool) (n : Nat) {rest : List Char}
    (ends : EndsNumber rest) :
    scanUnsigned negative (Text.digits n ++ rest)
      = .ok ({ negative, whole := Text.digits n, fraction := [], exponent := none }, rest) := by
  rw [scanUnsigned, scanWhole_append n ends]
  simp only [bind, Except.bind, scanFraction_of_endsNumber ends, scanExponent_of_endsNumber ends]
  rfl

theorem scanParts_ofInt_append (n : Int) {rest : List Char} (ends : EndsNumber rest) :
    scanParts ((NumberText.ofInt n).text ++ rest) = .ok (NumberText.ofInt n, rest) := by
  by_cases negative : n < 0
  · have sign : (NumberText.ofInt n).text ++ rest = '-' :: (Text.digits n.natAbs ++ rest) := by
      simp [NumberText.text, NumberText.ofInt, negative]
    rw [sign, scanParts, scanUnsigned_append true _ ends]
    simp [NumberText.ofInt, negative]
  · have noSign : (NumberText.ofInt n).text ++ rest = Text.digits n.natAbs ++ rest := by
      simp [NumberText.text, NumberText.ofInt, negative]
    have plain : ∀ more, Text.digits n.natAbs ++ rest = '-' :: more → False := by
      intro more same
      obtain ⟨c, tail, start⟩ := List.exists_cons_of_ne_nil (Text.digits_ne_nil n.natAbs)
      rw [start, List.cons_append] at same
      obtain rfl := (List.cons.inj same).1
      exact Text.digits_ne_cons (by decide) tail start
    rw [noSign, scanParts.eq_2 _ plain, scanUnsigned_append false _ ends]
    simp [NumberText.ofInt, negative]

/-! ## One lexeme -/

/-- A lexeme is found whose characters are taken as it by `scanFirst`. -/
theorem scan_of_scanFirst {l : Lexeme} {c : Char} {tail rest : List Char}
    (chars : l.text = c :: tail) (shown : isBlank c = false)
    (first : scanFirst c (tail ++ rest) = (l, rest)) : scan (l.text ++ rest) = l :: scan rest := by
  rw [chars, List.cons_append, scan, if_neg (by simp [shown]), first]

theorem scan_opening (b : Bracket) (rest : List Char) :
    scan ((opening b).text ++ rest) = opening b :: scan rest := by
  cases b <;> exact scan_of_scanFirst rfl (by decide) rfl

theorem scan_closing (b : Bracket) (rest : List Char) :
    scan ((closing b).text ++ rest) = closing b :: scan rest := by
  cases b <;> exact scan_of_scanFirst rfl (by decide) rfl

theorem scan_comma (rest : List Char) : scan (',' :: rest) = comma :: scan rest :=
  scan_of_scanFirst (l := comma) rfl (by decide) rfl

theorem scan_colon (rest : List Char) : scan (':' :: rest) = colon :: scan rest :=
  scan_of_scanFirst (l := colon) rfl (by decide) rfl

theorem scan_null (rest : List Char) : scan (null.text ++ rest) = null :: scan rest := by
  have chars : null.text = ['n', 'u', 'l', 'l'] := rfl
  exact scan_of_scanFirst chars (by decide) (by simp [scanFirst, scanWord])

theorem scan_boolean (b : Bool) (rest : List Char) :
    scan ((boolean b).text ++ rest) = boolean b :: scan rest := by
  cases b with
  | true =>
    have chars : (boolean true).text = ['t', 'r', 'u', 'e'] := rfl
    exact scan_of_scanFirst chars (by decide) (by simp [scanFirst, scanWord])
  | false =>
    have chars : (boolean false).text = ['f', 'a', 'l', 's', 'e'] := rfl
    exact scan_of_scanFirst chars (by decide) (by simp [scanFirst, scanWord])

theorem scan_ofString (s : String) (rest : List Char) :
    scan ((ofString s).text ++ rest) = ofString s :: scan rest := by
  have chars : (ofString s).text
      = '"' :: ((StringText.units s).flatMap StringText.unitText ++ ['"']) := rfl
  refine scan_of_scanFirst chars (by decide) ?_
  rw [scanFirst, List.append_assoc, List.singleton_append, StringText.scan_units]
  rfl

/-- A number begins with a minus sign or a digit, and no other lexeme does. -/
theorem scanFirst_of_number {c : Char} (h : c = '-' ∨ c.isDigit = true) (rest : List Char) :
    scanFirst c rest = scanNumber (c :: rest) := by
  unfold scanFirst
  split
  case h_11 => rw [if_pos h]
  all_goals exact absurd h (by decide)

theorem text_ofInt_eq_cons (n : Int) :
    ∃ c tail, (NumberText.ofInt n).text = c :: tail ∧ (c = '-' ∨ c.isDigit = true) := by
  obtain ⟨c, tail, start⟩ := List.exists_cons_of_ne_nil (Text.digits_ne_nil n.natAbs)
  by_cases negative : n < 0
  · exact ⟨'-', Text.digits n.natAbs, by simp [NumberText.text, NumberText.ofInt, negative],
      Or.inl rfl⟩
  · have digit : c.isDigit = true :=
      Text.isDigit_of_mem_digits (n := n.natAbs) (start ▸ List.mem_cons_self)
    exact ⟨c, tail, by simp [NumberText.text, NumberText.ofInt, negative, start], Or.inr digit⟩

theorem scan_ofInt (n : Int) {rest : List Char} (ends : EndsNumber rest) :
    scan ((number (NumberText.ofInt n)).text ++ rest)
      = number (NumberText.ofInt n) :: scan rest := by
  obtain ⟨c, tail, chars, start⟩ := text_ofInt_eq_cons n
  have shown : isBlank c = false := by
    rcases start with rfl | digit
    · decide
    · have apart : c ≠ ' ' ∧ c ≠ '\t' ∧ c ≠ '\n' ∧ c ≠ '\r' := by
        refine ⟨?_, ?_, ?_, ?_⟩ <;> (rintro rfl; exact absurd digit (by decide))
      simp [isBlank, apart]
  refine scan_of_scanFirst (l := number (NumberText.ofInt n)) chars shown ?_
  rw [scanFirst_of_number start, ← List.cons_append, ← chars, scanNumber,
    scanParts_ofInt_append n ends]

/-! ## Runs of lexemes -/

/-- The characters of a run of lexemes are cut up into that run, whatever ends a number standing
behind them. -/
def Found (run : List Lexeme) : Prop :=
  ∀ rest, EndsNumber rest → scan (run.flatMap text ++ rest) = run ++ scan rest

/-- Runs that are found are found with commas between them. -/
theorem found_separate {runs : List (List Lexeme)} (h : ∀ run ∈ runs, Found run) :
    Found (separate runs) := by
  induction runs with
  | nil => exact fun rest _ => rfl
  | cons run others ih =>
    cases others with
    | nil => exact h run List.mem_cons_self
    | cons next more =>
      intro rest ends
      have first : Found run := h run List.mem_cons_self
      have later : Found (separate (next :: more)) :=
        ih fun run member => h run (List.mem_cons_of_mem _ member)
      have chars : (separate (run :: next :: more)).flatMap text ++ rest
          = run.flatMap text ++ ',' :: ((separate (next :: more)).flatMap text ++ rest) := by
        simp [separate, text]
      rw [chars, first _ (endsNumber_comma _), scan_comma, later rest ends]
      simp [separate]

/-- A run that is found is found with brackets around it. -/
theorem found_enclosed (b : Bracket) {run : List Lexeme} (h : Found run) :
    Found (opening b :: run ++ [closing b]) := by
  intro rest _
  have chars : (opening b :: run ++ [closing b]).flatMap text ++ rest
      = (opening b).text ++ (run.flatMap text ++ ((closing b).text ++ rest)) := by
    simp
  rw [chars, scan_opening, h _ (endsNumber_closing b rest), scan_closing]
  simp

/-- A value that is found is found under a key. -/
theorem found_member (key : String) {run : List Lexeme} (h : Found run) :
    Found (ofString key :: colon :: run) := by
  intro rest ends
  have chars : (ofString key :: colon :: run).flatMap text ++ rest
      = (ofString key).text ++ ':' :: (run.flatMap text ++ rest) := by
    simp [text]
  rw [chars, scan_ofString, scan_colon, h rest ends]
  rfl

end Lexeme

/-! ## Documents -/

namespace Value

theorem found_lexemes {v : Value} (integers : v.NoDoubles) : Lexeme.Found v.lexemes := by
  induction v using Value.induction with
  | null => exact fun rest _ => by simpa [lexemes] using Lexeme.scan_null rest
  | boolean b => exact fun rest _ => by simpa [lexemes] using Lexeme.scan_boolean b rest
  | string s => exact fun rest _ => by simpa [lexemes] using Lexeme.scan_ofString s rest
  | number n =>
    obtain ⟨i, rfl⟩ := integers
    exact fun rest ends => by
      simpa [lexemes, NumberText.ofNumber?] using Lexeme.scan_ofInt i.val ends
  | array vs ih =>
    rw [noDoubles_array_iff] at integers
    rw [lexemes, lexemesOfElements_eq_map]
    refine Lexeme.found_enclosed .square (Lexeme.found_separate fun run member => ?_)
    obtain ⟨v, there, rfl⟩ := List.mem_map.1 member
    exact ih v there (integers v there)
  | object ms ih =>
    rw [noDoubles_object_iff] at integers
    rw [lexemes, lexemesOfMembers_eq_map]
    refine Lexeme.found_enclosed .curly (Lexeme.found_separate fun run member => ?_)
    obtain ⟨m, there, rfl⟩ := List.mem_map.1 member
    exact Lexeme.found_member m.1 (ih m there (integers m there))

/-- The text of a value without doubles is cut up into the lexemes of the value. -/
theorem scan_text {v : Value} (integers : v.NoDoubles) : Lexeme.scan v.text = v.lexemes := by
  have found := found_lexemes integers [] Lexeme.endsNumber_nil
  rwa [List.append_nil, Lexeme.scan, List.append_nil] at found

end Value

end CloudImages.Json
