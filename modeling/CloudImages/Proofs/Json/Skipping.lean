import CloudImages.Json.Skipper
import CloudImages.Proofs.Json.Tree

set_option autoImplicit false

/-! # The skipper passes over what the tree reader reads

A value that the tree reader reads is passed over by the skipper, up to the same place
(`Reader.skip_of_value`). The skipper goes through all nesting in a single loop, so this is proved
of a value with any brackets open around it: behind the value the same brackets are open
(`Skipper.run_value_of_value`). -/

namespace CloudImages.Json

open Outcome

/-- Only a string that is closed has a text. -/
theorem StringText.endFault?_of_decode {ending : StringEnd} {us : List TextUnit} {cs : List Char}
    (h : decode ending us = .ok cs) : endFault? ending = none := by
  fun_induction decode ending us generalizing cs with
  | case1 none => exact none
  | case2 | case4 | case5 | case6 | case8 => exact absurd h (by simp)
  | case3 _ _ ih | case7 _ _ _ _ _ _ ih | case9 _ _ _ _ ih =>
    obtain ⟨others, read, -⟩ := map_eq_ok_iff.1 h
    exact ih read

/-- What begins with a bracket. -/
def Head.ofBracket : Bracket → Head
  | .square => .array
  | .curly => .object

namespace Reader

theorem headOf_eq_ofBracket_iff {b : Bracket} {first : Lexeme} :
    headOf first = .ok (.ofBracket b) ↔ first = .opening b := by
  cases first with
  | opening b' => cases b <;> cases b' <;> simp [headOf, Head.ofBracket]
  | broken what => cases b <;> cases what <;> simp [headOf, Head.ofBracket]
  | null | boolean | closing | comma | colon => cases b <;> simp [headOf, Head.ofBracket]
  | number t => cases b <;> simp [headOf, Head.ofBracket, map_eq_ok_iff]
  | string units ending => cases b <;> simp [headOf, Head.ofBracket, map_eq_ok_iff]

theorem endFault?_of_stringOf {ending : StringEnd} {units : List TextUnit} {s : String}
    (h : stringOf units ending = .ok s) : StringText.endFault? ending = none := by
  obtain ⟨cs, decoded, -⟩ := map_eq_ok_iff.1 h
  exact StringText.endFault?_of_decode decoded

end Reader

namespace Skipper

open Reader

variable {around : List Bracket} {b : Bracket} {first : Lexeme} {tail rest : List Lexeme}

/-! ## One lexeme -/

theorem run_value_cons (h : skipValue around first = .ok (.next, around)) :
    run .value around (first :: rest) = run .next around rest := by
  simp [run, step, h, bind, Except.bind]

theorem run_value_opening :
    run .value around (.opening b :: rest) = run .first (b :: around) rest := by
  simp [run, step, skipValue, bind, Except.bind]

theorem run_first_closing :
    run .first (b :: around) (.closing b :: rest) = run .next around rest := by
  simp [run, step, skipFirst, bind, Except.bind]

theorem run_first_of_ne (opens : first ≠ .closing b) :
    run .first (b :: around) (first :: tail)
      = run (afterComma b) (b :: around) (first :: tail) := by
  cases b <;> simp [run, step, skipFirst, afterComma, opens]

theorem run_next_closing :
    run .next (b :: around) (.closing b :: rest) = run .next around rest := by
  simp [run, step, skipNext, bind, Except.bind]

theorem run_next_comma :
    run .next (b :: around) (.comma :: rest) = run (afterComma b) (b :: around) rest := by
  simp [run, step, skipNext, bind, Except.bind]

/-- A key and the colon behind it. -/
theorem run_key {units : List TextUnit} {ending : StringEnd} {name : String}
    (decoded : stringOf units ending = .ok name) :
    run .key around (.string units ending :: .colon :: rest) = run .value around rest := by
  simp [run, step, skipKey, skipColon, endFault?_of_stringOf decoded, bind, Except.bind]

theorem skipValue_of_scalar {found : Head} {v : Value} (head : headOf first = .ok found)
    (whole : scalar? found = some v) : skipValue around first = .ok (.next, around) := by
  cases first with
  | null | boolean | number => rfl
  | string units ending =>
    obtain ⟨s, decoded, -⟩ := map_eq_ok_iff.1 head
    rw [skipValue, endFault?_of_stringOf decoded]
  | opening b =>
    cases b <;> cases head <;> exact absurd whole (by simp [scalar?])
  | closing | comma | colon => exact absurd head (by simp [headOf])
  | broken what => cases what <;> exact absurd head (by simp [headOf])

/-! ## Values -/

/-- Whatever the reader reads, the skipper passes over with any brackets open. -/
def PassesOver (reader : Reader Value) : Prop :=
  ∀ {lexemes v rest}, reader lexemes = .ok (v, rest) →
    ∀ around, run .value around lexemes = run .next around rest

theorem run_of_series {element : Reader Value} (passes : PassesOver element)
    {lexemes rest : List Lexeme} {vs : List Value} (h : Series element lexemes vs rest)
    (around : List Bracket) :
    run .value (.square :: around) lexemes = run .next around rest := by
  induction h with
  | last read => rw [passes read, run_next_closing]
  | next read _ _ ih => rw [passes read, run_next_comma, afterComma, ih]

theorem run_of_memberSeries {inner : Reader Value} (passes : PassesOver inner)
    {lexemes rest : List Lexeme} {before after : Members Value}
    (h : MemberSeries (memberOf inner) before lexemes after rest) (around : List Bracket) :
    run .key (.curly :: around) lexemes = run .next around rest := by
  induction h with
  | last read =>
    obtain ⟨units, ending, name, body, v, rfl, decoded, valueRead, -⟩ :=
      memberRead_memberOf_iff.1 read
    rw [run_key decoded, passes valueRead, run_next_closing]
  | next read _ _ ih =>
    obtain ⟨units, ending, name, body, v, rfl, decoded, valueRead, -⟩ :=
      memberRead_memberOf_iff.1 read
    rw [run_key decoded, passes valueRead, run_next_comma, afterComma, ih]

theorem passesOver_value (depth : Nat) : PassesOver (value depth) := by
  induction depth with
  | zero =>
    intro lexemes v rest h around
    cases value_eq_ok_iff.1 h with
    | scalar head whole => exact run_value_cons (skipValue_of_scalar head whole)
  | succ depth ih =>
    intro lexemes v rest h around
    cases value_eq_ok_iff.1 h with
    | scalar head whole => exact run_value_cons (skipValue_of_scalar head whole)
    | array head inner =>
      obtain rfl := headOf_eq_ofBracket_iff (b := .square) |>.1 head
      rw [run_value_opening]
      rcases (elements_eq_ok_iff (value_shrinks depth)).1 inner with
        ⟨-, rfl⟩ | ⟨⟨first, tail, rfl, opens⟩, series⟩
      · exact run_first_closing
      · rw [run_first_of_ne opens, afterComma, run_of_series ih series]
    | object head inner =>
      obtain rfl := headOf_eq_ofBracket_iff (b := .curly) |>.1 head
      rw [run_value_opening]
      rcases (members_eq_ok_iff (memberOf_shrinks (value_shrinks depth))).1 inner with
        ⟨-, rfl⟩ | ⟨⟨first, tail, rfl, opens⟩, series⟩
      · exact run_first_closing
      · rw [run_first_of_ne opens, afterComma, run_of_memberSeries ih series]

/-! ## Every value takes a lexeme -/

theorem length_run_le {state : SkipState} {around : List Bracket} {lexemes rest : List Lexeme}
    (h : run state around lexemes = .ok rest) : rest.length ≤ lexemes.length := by
  fun_induction run state around lexemes with
  | case1 =>
    cases h
    exact Nat.le_refl _
  | case2 => exact absurd h (by simp)
  | case3 state around lexeme tail _ ih =>
    obtain ⟨⟨state', around'⟩, -, h₁⟩ := bind_eq_ok_iff.1 h
    exact Nat.le_succ_of_le (ih _ _ h₁)

end Skipper

namespace Reader

theorem skip_eq_ok_iff {lexemes rest : List Lexeme} :
    skip lexemes = .ok ((), rest) ↔ Skipper.run .value [] lexemes = .ok rest := by
  rw [skip, bind_eq_ok_iff]
  simp [pure, Except.pure]

/-- What the tree reader reads is skipped, up to the same place. -/
theorem skip_of_value {depth : Nat} {lexemes rest : List Lexeme} {v : Value}
    (h : value depth lexemes = .ok (v, rest)) : skip lexemes = .ok ((), rest) := by
  rw [skip_eq_ok_iff, Skipper.passesOver_value depth h, Skipper.run]

theorem skip_shrinks : Shrinks skip := by
  rintro lexemes ⟨⟩ rest h
  have run := skip_eq_ok_iff.1 h
  cases lexemes with
  | nil => exact absurd run (by simp [Skipper.run])
  | cons first tail =>
    obtain ⟨⟨state, around⟩, -, left⟩ := bind_eq_ok_iff.1 run
    exact Nat.lt_succ_of_le (Skipper.length_run_le left)

end Reader

end CloudImages.Json
