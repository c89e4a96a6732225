import CloudImages.Json.Lexeme

set_option autoImplicit false

/-! # Finding lexemes

`Lexeme.scan` cuts a text into its lexemes, from left to right and without looking at how they are
nested; a place where no lexeme can be found ends the list with what is broken there. So a fault is
known before a reader gets to it, but is reported only by the reader that does, and a reader may
first find that it wanted something else. -/

namespace CloudImages.Json

namespace Lexeme

/-- The characters that may stand between lexemes. -/
def isBlank (c : Char) : Bool :=
  c == ' ' || c == '\t' || c == '\n' || c == '\r'

/-! ## Words -/

/-- Finds the letters that a word still lacks. -/
def scanWord (word : Lexeme) : List Char → List Char → Lexeme × List Char
  | [], rest => (word, rest)
  | _ :: _, [] => (.broken (.word .textEnds), [])
  | letter :: letters, c :: rest =>
    if letter = c then scanWord word letters rest else (.broken (.word .strayCharacter), [])

/-! ## Numbers -/

/-- One or more digits. -/
def scanDigits : List Char → Except Break (List Char × List Char)
  | [] => .error .textEnds
  | c :: rest =>
    if c.isDigit then .ok (c :: rest.takeWhile Char.isDigit, rest.dropWhile Char.isDigit)
    else .error .strayCharacter

/-- The digits before the point: a zero is not followed by another digit. -/
def scanWhole : List Char → Except Break (List Char × List Char)
  | '0' :: rest =>
    if rest.head?.any Char.isDigit then .error .strayCharacter else .ok (['0'], rest)
  | cs => scanDigits cs

/-- A point and digits, if there is a point. -/
def scanFraction : List Char → Except Break (List Char × List Char)
  | '.' :: rest => scanDigits rest
  | cs => .ok ([], cs)

/-- The sign and the digits of an exponent. -/
def scanSigned : List Char → Except Break (Bool × List Char × List Char)
  | '+' :: rest => (scanDigits rest).map fun found => (false, found)
  | '-' :: rest => (scanDigits rest).map fun found => (true, found)
  | cs => (scanDigits cs).map fun found => (false, found)

/-- A letter `e`, small or capital, and what follows it, if there is one. -/
def scanExponent : List Char → Except Break (Option (Bool × List Char) × List Char)
  | c :: rest =>
    if c = 'e' ∨ c = 'E' then
      (scanSigned rest).map fun (negative, digits, rest) => (some (negative, digits), rest)
    else .ok (none, c :: rest)
  | [] => .ok (none, [])

/-- The parts of a number behind its sign. -/
def scanUnsigned (negative : Bool) (cs : List Char) : Except Break (NumberText × List Char) := do
  let (whole, cs) ← scanWhole cs
  let (fraction, cs) ← scanFraction cs
  let (exponent, cs) ← scanExponent cs
  return ({ negative, whole, fraction, exponent }, cs)

/-- The parts of a number. -/
def scanParts : List Char → Except Break (NumberText × List Char)
  | '-' :: rest => scanUnsigned true rest
  | cs => scanUnsigned false cs

/-- A number whose first character is a minus sign or a digit. -/
def scanNumber (cs : List Char) : Lexeme × List Char :=
  match scanParts cs with
  | .ok (t, rest) => (.number t, rest)
  | .error how => (.broken (.number how), [])

/-! ## All lexemes -/

/-- The lexeme that begins with the character `c`, and what is left behind it. -/
def scanFirst (c : Char) (rest : List Char) : Lexeme × List Char :=
  match c with
  | '[' => (.opening .square, rest)
  | ']' => (.closing .square, rest)
  | '{' => (.opening .curly, rest)
  | '}' => (.closing .curly, rest)
  | ',' => (.comma, rest)
  | ':' => (.colon, rest)
  | 'n' => scanWord .null ['u', 'l', 'l'] rest
  | 't' => scanWord (.boolean true) ['r', 'u', 'e'] rest
  | 'f' => scanWord (.boolean false) ['a', 'l', 's', 'e'] rest
  | '"' =>
    let (units, ending, rest) := StringText.scan rest
    (.string units ending, rest)
  | c => if c = '-' ∨ c.isDigit then scanNumber (c :: rest) else (.broken .stray, [])

/-! ### A lexeme takes at least one character -/

theorem length_scanWord_le (word : Lexeme) (letters cs : List Char) :
    (scanWord word letters cs).2.length ≤ cs.length := by
  fun_induction scanWord word letters cs with
  | case1 rest => exact Nat.le_refl _
  | case2 | case4 => exact Nat.zero_le _
  | case3 letters c rest ih =>
    simp only [List.length_cons]
    omega

theorem length_scanDigits_lt {cs found rest : List Char} (h : scanDigits cs = .ok (found, rest)) :
    rest.length < cs.length := by
  cases cs with
  | nil => simp [scanDigits] at h
  | cons c tail =>
    have := (List.dropWhile_sublist Char.isDigit (l := tail)).length_le
    simp only [scanDigits] at h
    split at h
    · cases h
      simp only [List.length_cons]
      omega
    · exact absurd h (by simp)

theorem length_scanWhole_lt {cs found rest : List Char} (h : scanWhole cs = .ok (found, rest)) :
    rest.length < cs.length := by
  unfold scanWhole at h
  split at h
  · split at h
    · exact absurd h (by simp)
    · cases h
      simp
  · exact length_scanDigits_lt h

theorem length_scanFraction_le {cs found rest : List Char}
    (h : scanFraction cs = .ok (found, rest)) : rest.length ≤ cs.length := by
  unfold scanFraction at h
  split at h
  · have := length_scanDigits_lt h
    simp only [List.length_cons]
    omega
  · cases h
    exact Nat.le_refl _

theorem length_scanSigned_le {cs digits rest : List Char} {negative : Bool}
    (h : scanSigned cs = .ok (negative, digits, rest)) : rest.length ≤ cs.length := by
  have plain {negative other : Bool} {tail : List Char}
      (h : (scanDigits tail).map (fun found => (other, found)) = .ok (negative, digits, rest)) :
      rest.length ≤ tail.length := by
    cases found : scanDigits tail with
    | error how => simp [found, Except.map] at h
    | ok pair =>
      obtain ⟨ds, left⟩ := pair
      simp only [found, Except.map, Except.ok.injEq, Prod.mk.injEq] at h
      have := length_scanDigits_lt found
      rw [← h.2.2]
      omega
  unfold scanSigned at h
  split at h
  · exact Nat.le_succ_of_le (plain h)
  · exact Nat.le_succ_of_le (plain h)
  · exact plain h

theorem length_scanExponent_le {cs rest : List Char} {exponent : Option (Bool × List Char)}
    (h : scanExponent cs = .ok (exponent, rest)) : rest.length ≤ cs.length := by
  unfold scanExponent at h
  split at h
  · next c tail =>
    split at h
    · cases found : scanSigned tail with
      | error how => simp [found, Except.map] at h
      | ok triple =>
        obtain ⟨negative, digits, left⟩ := triple
        simp only [found, Except.map, Except.ok.injEq, Prod.mk.injEq] at h
        have := length_scanSigned_le found
        rw [← h.2]
        simp only [List.length_cons]
        omega
    · cases h
      exact Nat.le_refl _
  · cases h
    exact Nat.le_refl _

theorem length_scanUnsigned_lt {negative : Bool} {cs rest : List Char} {t : NumberText}
    (h : scanUnsigned negative cs = .ok (t, rest)) : rest.length < cs.length := by
  simp only [scanUnsigned, bind, Except.bind] at h
  split at h
  · exact absurd h (by simp)
  · next whole hw =>
    split at h
    · exact absurd h (by simp)
    · next fraction hf =>
      split at h
      · exact absurd h (by simp)
      · next exponent he =>
        simp only [pure, Except.pure, Except.ok.injEq, Prod.mk.injEq] at h
        have first := length_scanWhole_lt hw
        have second := length_scanFraction_le hf
        have third := length_scanExponent_le he
        rw [← h.2]
        omega

theorem length_scanParts_lt {cs rest : List Char} {t : NumberText}
    (h : scanParts cs = .ok (t, rest)) : rest.length < cs.length := by
  unfold scanParts at h
  split at h
  · exact Nat.lt_succ_of_lt (length_scanUnsigned_lt h)
  · exact length_scanUnsigned_lt h

theorem length_scanNumber_lt {cs : List Char} (h : cs ≠ []) :
    (scanNumber cs).2.length < cs.length := by
  unfold scanNumber
  split
  · next t rest found => exact length_scanParts_lt found
  · exact List.length_pos_iff.2 h

theorem length_scanFirst_le (c : Char) (rest : List Char) :
    (scanFirst c rest).2.length ≤ rest.length := by
  unfold scanFirst
  split
  case h_7 | h_8 | h_9 => exact length_scanWord_le _ _ _
  case h_10 => exact StringText.length_scan_le rest
  case h_11 =>
    split
    · have := length_scanNumber_lt (List.cons_ne_nil c rest)
      simp only [List.length_cons] at this
      omega
    · simp
  all_goals exact Nat.le_refl _

/-- The lexemes of a text. -/
def scan (cs : List Char) : List Lexeme :=
  match cs with
  | [] => []
  | c :: rest =>
    if isBlank c then scan rest
    else (scanFirst c rest).1 :: scan (scanFirst c rest).2
termination_by cs.length
decreasing_by
  · simp
  · have := length_scanFirst_le c rest
    simp only [List.length_cons]
    omega

end Lexeme

end CloudImages.Json
