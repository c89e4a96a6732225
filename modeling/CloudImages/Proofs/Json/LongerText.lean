import CloudImages.Json.Lexeme.Scan
import CloudImages.Proofs.Outcome

set_option autoImplicit false

/-! # The lexemes of a text that goes on

Where a text goes on, its lexemes stay as they are, all but the last: a number may get more digits,
and a word or a string that broke off may be completed. A bracket is complete as soon as it is
there, so if a bracket is the last of them all lexemes stay, and those of the added text stand
behind them (`Lexeme.scan_append`). -/

namespace CloudImages.Json

open Outcome

/-! ## Strings -/

/-- A string that ends before its text does ends there as well if the text goes on. -/
theorem StringText.scan_append {cs : List Char} (left : (scan cs).2.2 ≠ []) (more : List Char) :
    scan (cs ++ more) = ((scan cs).1, (scan cs).2.1, (scan cs).2.2 ++ more) := by
  fun_induction scan cs with
  | case2 rest => simp [scan]
  | case3 a b c d rest n quad us ending behind found ih =>
    rw [found] at ih
    simp only [List.cons_append, scan, quad, ih left]
  | case6 letter rest _ _ c short us ending behind found ih =>
    have notHex : letter ≠ 'u' := by
      rintro rfl
      exact absurd short (by simp [unescape?])
    rw [found] at ih
    rw [List.cons_append, List.cons_append,
      scan.eq_5 _ _ (fun _ _ _ _ _ same _ => notHex same) notHex, short]
    simp only [ih left]
  | case10 c rest notQuote _ _ notEscape notLast shown us ending behind found ih =>
    have plain : c ≠ '\\' := by
      intro same
      cases rest with
      | nil => exact notLast same rfl
      | cons letter tail => exact notEscape letter tail same rfl
    rw [found] at ih
    rw [List.cons_append, scan.eq_7 _ _ notQuote (fun _ _ _ _ _ same _ => plain same)
      (fun _ same _ => plain same) (fun _ _ same _ => plain same) (fun same _ => plain same),
      if_neg shown]
    simp only [ih left]
  -- where a string breaks off nothing is left
  | case1 | case4 | case5 | case7 | case8 | case9 => exact absurd rfl left

namespace Lexeme

variable {α : Type}

/-! ## Words -/

theorem scanWord_append {word : Lexeme} {letters cs : List Char}
    (left : (scanWord word letters cs).2 ≠ []) (more : List Char) :
    scanWord word letters (cs ++ more)
      = ((scanWord word letters cs).1, (scanWord word letters cs).2 ++ more) := by
  fun_induction scanWord word letters cs with
  | case1 rest => rw [scanWord]
  | case3 letters c rest ih => rw [List.cons_append, scanWord, if_pos rfl, ih left]
  | case2 | case4 => exact absurd rfl left

/-- A word is found, or it is broken. -/
theorem scanWord_fst (word : Lexeme) (letters cs : List Char) :
    (scanWord word letters cs).1 = word ∨ ∃ what, (scanWord word letters cs).1 = broken what := by
  fun_induction scanWord word letters cs with
  | case1 => exact Or.inl rfl
  | case3 _ _ _ ih => exact ih
  | case2 | case4 => exact Or.inr ⟨_, rfl⟩

/-! ## Numbers -/

/-- Whatever is found before the end of a text is found there as well if the text goes on. -/
def Settles (find : List Char → Except Break (α × List Char)) : Prop :=
  ∀ {cs a left}, find cs = .ok (a, left) → left ≠ [] →
    ∀ more, find (cs ++ more) = .ok (a, left ++ more)

/-- A text that begins with another character does so if it goes on. -/
theorem not_begins_append {c : Char} {cs : List Char} (other : ∀ rest, cs = c :: rest → False)
    (longer : 0 < cs.length) (more : List Char) : ∀ rest, cs ++ more = c :: rest → False := by
  intro rest same
  obtain ⟨d, tail, rfl⟩ := List.exists_cons_of_length_pos longer
  exact other tail (by rw [(List.cons.inj same).1])

theorem settles_scanDigits : Settles scanDigits := by
  intro cs ds left h nonempty more
  cases cs with
  | nil => exact absurd h (by simp [scanDigits])
  | cons c tail =>
    rw [scanDigits] at h
    split at h
    · next digit =>
      cases h
      -- something is left, so the digits end before the text does
      have stops : (tail.takeWhile Char.isDigit).length ≠ tail.length := by
        intro all
        have parts := congrArg List.length (tail.takeWhile_append_dropWhile (p := Char.isDigit))
        rw [List.length_append] at parts
        exact nonempty (List.length_eq_zero_iff.1 (by omega))
      rw [List.cons_append, scanDigits, if_pos digit, List.takeWhile_append, if_neg stops,
        List.dropWhile_append, if_neg (by simpa using nonempty)]
    · exact absurd h (by simp)

theorem settles_scanWhole : Settles scanWhole := by
  intro cs ds left h nonempty more
  unfold scanWhole at h
  split at h
  · split at h
    · exact absurd h (by simp)
    · next last =>
      cases h
      obtain ⟨d, tail, rfl⟩ := List.exists_cons_of_ne_nil nonempty
      exact if_neg last
  · next notZero =>
    have taken := length_scanDigits_lt h
    rw [scanWhole.eq_2 _ (not_begins_append notZero (by omega) more)]
    exact settles_scanDigits h nonempty more

theorem settles_scanFraction : Settles scanFraction := by
  intro cs ds left h nonempty more
  unfold scanFraction at h
  split at h
  · exact settles_scanDigits h nonempty more
  · next noPoint =>
    cases h
    rw [scanFraction.eq_2 _ (not_begins_append noPoint (List.length_pos_iff.2 nonempty) more)]

theorem scanSigned_append {cs digits left : List Char} {negative : Bool}
    (h : scanSigned cs = .ok (negative, digits, left)) (nonempty : left ≠ []) (more : List Char) :
    scanSigned (cs ++ more) = .ok (negative, digits, left ++ more) := by
  unfold scanSigned at h
  split at h
  · obtain ⟨_, found, same⟩ := map_eq_ok_iff.1 h
    cases same
    exact map_eq_ok_iff.2 ⟨_, settles_scanDigits found nonempty more, rfl⟩
  · obtain ⟨_, found, same⟩ := map_eq_ok_iff.1 h
    cases same
    exact map_eq_ok_iff.2 ⟨_, settles_scanDigits found nonempty more, rfl⟩
  · next notPlus notMinus =>
    obtain ⟨_, found, same⟩ := map_eq_ok_iff.1 h
    cases same
    have taken := length_scanDigits_lt found
    rw [scanSigned.eq_3 _ (not_begins_append notPlus (by omega) more)
      (not_begins_append notMinus (by omega) more)]
    exact map_eq_ok_iff.2 ⟨_, settles_scanDigits found nonempty more, rfl⟩

theorem settles_scanExponent : Settles scanExponent := by
  intro cs exponent left h nonempty more
  unfold scanExponent at h
  split at h
  · split at h
    · next letter =>
      obtain ⟨_, found, same⟩ := map_eq_ok_iff.1 h
      cases same
      rw [List.cons_append, scanExponent, if_pos letter]
      exact map_eq_ok_iff.2 ⟨_, scanSigned_append found nonempty more, rfl⟩
    · next other =>
      cases h
      rw [List.cons_append, scanExponent, if_neg other]
  · cases h
    exact absurd rfl nonempty

theorem settles_scanUnsigned (negative : Bool) : Settles (scanUnsigned negative) := by
  intro cs t left h nonempty more
  obtain ⟨⟨whole, behindWhole⟩, wholeFound, h₁⟩ := bind_eq_ok_iff.1 h
  obtain ⟨⟨fraction, behindFraction⟩, fractionFound, h₂⟩ := bind_eq_ok_iff.1 h₁
  obtain ⟨⟨exponent, behind⟩, exponentFound, h₃⟩ := bind_eq_ok_iff.1 h₂
  obtain ⟨rfl, rfl⟩ := Prod.mk.inj (pure_eq_ok_iff.1 h₃)
  -- what is left at the end was left behind every part
  have nonempty₂ : behindFraction ≠ [] := by
    rintro rfl
    exact nonempty
      (List.length_eq_zero_iff.1 (Nat.le_zero.1 (length_scanExponent_le exponentFound)))
  have nonempty₁ : behindWhole ≠ [] := by
    rintro rfl
    exact nonempty₂
      (List.length_eq_zero_iff.1 (Nat.le_zero.1 (length_scanFraction_le fractionFound)))
  refine bind_eq_ok_iff.2 ⟨_, settles_scanWhole wholeFound nonempty₁ more, ?_⟩
  refine bind_eq_ok_iff.2 ⟨_, settles_scanFraction fractionFound nonempty₂ more, ?_⟩
  exact bind_eq_ok_iff.2 ⟨_, settles_scanExponent exponentFound nonempty more, rfl⟩

theorem settles_scanParts : Settles scanParts := by
  intro cs t left h nonempty more
  unfold scanParts at h
  split at h
  · exact settles_scanUnsigned true h nonempty more
  · next noSign =>
    have taken := length_scanUnsigned_lt h
    rw [scanParts.eq_2 _ (not_begins_append noSign (by omega) more)]
    exact settles_scanUnsigned false h nonempty more

theorem scanNumber_append {cs : List Char} (left : (scanNumber cs).2 ≠ []) (more : List Char) :
    scanNumber (cs ++ more) = ((scanNumber cs).1, (scanNumber cs).2 ++ more) := by
  cases found : scanParts cs with
  | error how => exact absurd (by simp [scanNumber, found]) left
  | ok result =>
    obtain ⟨t, rest⟩ := result
    simp only [scanNumber, found] at left
    simp [scanNumber, found, settles_scanParts found left more]

/-! ## One lexeme -/

/-- A lexeme that ends before its text does ends there as well if the text goes on. -/
theorem scanFirst_append {c : Char} {rest : List Char} (left : (scanFirst c rest).2 ≠ [])
    (more : List Char) :
    scanFirst c (rest ++ more) = ((scanFirst c rest).1, (scanFirst c rest).2 ++ more) := by
  unfold scanFirst at left ⊢
  split
  case h_7 | h_8 | h_9 => exact scanWord_append left more
  case h_10 => simp only [StringText.scan_append left more]
  case h_11 =>
    split
    · next begins =>
      simp only [if_pos begins] at left
      exact scanNumber_append left more
    · next stray => exact absurd (by simp [stray]) left
  all_goals rfl

/-- A bracket, opening or closing. -/
def IsBracket (l : Lexeme) : Prop :=
  ∃ b, l = opening b ∨ l = closing b

/-- A bracket is found by its own character, whatever stands behind it. -/
theorem scanFirst_of_isBracket {c : Char} {rest : List Char}
    (bracket : IsBracket (scanFirst c rest).1) (other : List Char) :
    scanFirst c other = ((scanFirst c rest).1, other) := by
  have notWord {word : Lexeme} (plain : ¬ IsBracket word) (letters : List Char)
      (h : IsBracket (scanWord word letters rest).1) : False := by
    rcases scanWord_fst word letters rest with same | ⟨what, same⟩
    · exact plain (same ▸ h)
    · rw [same] at h
      exact absurd h (by simp [IsBracket])
  unfold scanFirst at bracket ⊢
  split
  case h_7 | h_8 | h_9 => exact (notWord (by simp [IsBracket]) _ bracket).elim
  case h_10 => exact absurd bracket (by simp [IsBracket])
  case h_11 =>
    split
    · next begins =>
      simp only [if_pos begins, scanNumber] at bracket
      split at bracket <;> exact absurd bracket (by simp [IsBracket])
    · next stray =>
      simp only [if_neg stray] at bracket
      exact absurd bracket (by simp [IsBracket])
  all_goals rfl

/-! ## All lexemes -/

/-- If the last lexeme of a text is a bracket, all of them stay when the text goes on. -/
theorem scan_append {cs : List Char} (ends : ∀ l, (scan cs).getLast? = some l → IsBracket l)
    (more : List Char) : scan (cs ++ more) = scan cs ++ scan more := by
  fun_induction scan cs with
  | case1 => rfl
  | case2 c rest blank ih => rw [List.cons_append, scan, if_pos blank, ih ends]
  | case3 c rest shown ih =>
    have first : scanFirst c (rest ++ more)
        = ((scanFirst c rest).1, (scanFirst c rest).2 ++ more) := by
      by_cases last : scan (scanFirst c rest).2 = []
      · have bracket : IsBracket (scanFirst c rest).1 := ends _ (by simp [last])
        rw [scanFirst_of_isBracket bracket (rest ++ more),
          congrArg Prod.snd (scanFirst_of_isBracket bracket rest)]
      · refine scanFirst_append (fun none => last ?_) more
        rw [none, scan]
    have others : scan ((scanFirst c rest).2 ++ more)
        = scan (scanFirst c rest).2 ++ scan more := by
      refine ih fun l there => ends l ?_
      rw [List.getLast?_cons, there, Option.getD_some]
    rw [List.cons_append, scan, if_neg shown, first, others, List.cons_append]

/-- A text in which there is a lexeme begins with the bracket with which it begins if it goes
on. -/
theorem scan_eq_cons_of_append {cs more : List Char} {l : Lexeme} {tail : List Lexeme}
    (bracket : IsBracket l) (h : scan (cs ++ more) = l :: tail) (found : scan cs ≠ []) :
    ∃ tail', scan cs = l :: tail' := by
  fun_induction scan cs with
  | case1 => exact absurd rfl found
  | case2 c rest blank ih =>
    rw [List.cons_append, scan, if_pos blank] at h
    exact ih h found
  | case3 c rest shown ih =>
    rw [List.cons_append, scan, if_neg shown] at h
    obtain ⟨first, -⟩ := List.cons.inj h
    rw [scanFirst_of_isBracket (first ▸ bracket) rest]
    exact ⟨_, by rw [first]⟩

theorem isBlank_of_scan_eq_nil {cs : List Char} (h : scan cs = []) : ∀ c ∈ cs, isBlank c := by
  fun_induction scan cs with
  | case1 => exact fun c there => absurd there List.not_mem_nil
  | case2 c rest blank ih => exact List.forall_mem_cons.2 ⟨blank, ih h⟩
  | case3 => exact absurd h (by simp)

end Lexeme

end CloudImages.Json
