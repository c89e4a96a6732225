import CloudImages.Json.Writer

set_option autoImplicit false

/-! # Written documents have no control characters

A document is written without any character below U+0020 (`Value.printable_text`): strings and keys
escape theirs, and nothing else that is written could be one. So a document takes up a single line,
whatever is in it. -/

namespace CloudImages.Json

/-- No character of a text is below U+0020. -/
def Printable (cs : List Char) : Prop :=
  ∀ c ∈ cs, 0x20 ≤ c.toNat

-- the instance is named, since one that goes through all characters would do as well
instance (cs : List Char) : Decidable (Printable cs) :=
  List.decidableBAll (fun c : Char => 0x20 ≤ c.toNat) cs

section

variable {cs ds : List Char}

theorem printable_cons_iff {c : Char} : Printable (c :: cs) ↔ 0x20 ≤ c.toNat ∧ Printable cs :=
  List.forall_mem_cons

theorem printable_append_iff : Printable (cs ++ ds) ↔ Printable cs ∧ Printable ds :=
  List.forall_mem_append

theorem printable_flatMap {α : Type} {as : List α} {f : α → List Char}
    (each : ∀ a ∈ as, Printable (f a)) : Printable (as.flatMap f) := by
  intro c there
  obtain ⟨a, member, there⟩ := List.mem_flatMap.1 there
  exact each a member c there

theorem Printable.lineFeed_notMem (h : Printable cs) : '\n' ∉ cs :=
  fun there => absurd (h '\n' there) (by decide)

end

/-! ## Numbers -/

/-- A text of digits only; it may be empty. -/
def AllDigits (cs : List Char) : Prop :=
  ∀ c ∈ cs, c.isDigit

theorem AllDigits.printable {cs : List Char} (h : AllDigits cs) : Printable cs := by
  intro c there
  have range := Text.toNat_of_isDigit (h c there)
  omega

theorem allDigits_digits (n : Nat) : AllDigits (Text.digits n) :=
  fun _ => Text.isDigit_of_mem_digits

theorem allDigits_shortest (b : Decimal.Binary) : AllDigits (Decimal.shortest b).digits := by
  intro c there
  -- the digits of the coefficient, some zeros cut off behind them
  have kept := (List.dropWhile_suffix _).subset (List.mem_reverse.1 there)
  exact Text.isDigit_of_mem_digits (List.mem_reverse.1 kept)

namespace NumberText

/-- The parts of a number are digits. -/
structure OfDigits (t : NumberText) : Prop where
  whole : AllDigits t.whole
  fraction : AllDigits t.fraction
  exponent : ∀ negative digits, t.exponent = some (negative, digits) → AllDigits digits

theorem OfDigits.printable {t : NumberText} (h : t.OfDigits) : Printable t.text := by
  have sign : Printable (if t.negative then ['-'] else []) := by
    split <;> decide
  have fraction : Printable (if t.fraction = [] then [] else '.' :: t.fraction) := by
    split
    · decide
    · exact printable_cons_iff.2 ⟨by decide, h.fraction.printable⟩
  refine printable_append_iff.2 ⟨printable_append_iff.2 ⟨printable_append_iff.2
    ⟨sign, h.whole.printable⟩, fraction⟩, ?_⟩
  cases power : t.exponent with
  | none => exact List.forall_mem_nil _
  | some exponent =>
    obtain ⟨negative, digits⟩ := exponent
    have rest := (h.exponent negative digits power).printable
    cases negative <;>
      exact printable_cons_iff.2 ⟨by decide, printable_cons_iff.2 ⟨by decide, rest⟩⟩

theorem ofDigits_ofInt (n : Int) : (ofInt n).OfDigits where
  whole := allDigits_digits _
  fraction := List.forall_mem_nil _
  exponent := nofun

theorem ofDigits_positional {ds : List Char} (digits : AllDigits ds) (negative : Bool)
    (exponent : Int) : (positional negative ds exponent).OfDigits := by
  have zeros (count : Nat) : AllDigits (List.replicate count '0') :=
    fun c there => List.eq_of_mem_replicate there ▸ rfl
  have zero : AllDigits ['0'] := zeros 1
  cases exponent with
  | ofNat shift =>
    refine ⟨?_, ?_, nofun⟩
    · exact List.forall_mem_append.2
        ⟨fun c there => digits c (List.mem_of_mem_take there), zeros _⟩
    · intro c there
      simp only [positional] at there
      split at there
      · exact zero c there
      · exact digits c (List.mem_of_mem_drop there)
  | negSucc shift =>
    refine ⟨zero, ?_, nofun⟩
    intro c there
    simp only [positional] at there
    split at there
    · exact zero c there
    · exact List.forall_mem_append.2 ⟨zeros shift, digits⟩ c there

theorem ofDigits_exponential {ds : List Char} (digits : AllDigits ds) (negative : Bool)
    (exponent : Int) : (exponential negative ds exponent).OfDigits where
  whole c there := digits c (List.mem_of_mem_take there)
  fraction c there := digits c (List.mem_of_mem_drop there)
  exponent := by
    rintro _ _ ⟨⟩
    exact allDigits_digits _

theorem ofDigits_of_ofNumber? {n : Number} {t : NumberText} (h : ofNumber? n = some t) :
    t.OfDigits := by
  cases n with
  | integer n =>
    cases h
    exact ofDigits_ofInt n.val
  | double x =>
    obtain ⟨binary, -, rfl⟩ := Option.map_eq_some_iff.1 h
    dsimp only
    split
    · exact ofDigits_positional (allDigits_digits 0) _ _
    · split
      · exact ofDigits_positional (allDigits_shortest binary) _ _
      · exact ofDigits_exponential (allDigits_shortest binary) _ _

end NumberText

/-! ## Strings -/

namespace StringText

theorem printable_of_escape? {c letter : Char} (h : escape? c = some letter) :
    0x20 ≤ letter.toNat := by
  unfold escape? at h
  split at h
  case h_8 => exact absurd h (by simp)
  all_goals
    cases h
    decide

theorem printable_digitChar : ∀ n < 16, 0x20 ≤ n.digitChar.toNat := by
  decide

theorem printable_hexQuad (n : Nat) : Printable (hexQuad n) := by
  have digit (k : Nat) : 0x20 ≤ (k % 16).digitChar.toNat :=
    printable_digitChar _ (Nat.mod_lt _ (by decide))
  simp [hexQuad, Printable, digit]

/-- A control character is written as an escape, and every other one needs none. -/
theorem printable_unitText (c : Char) : Printable (unitText (unit c)) := by
  by_cases h : isControl c = true ∧ escape? c = none
  · rw [unit, if_pos h]
    exact printable_cons_iff.2 ⟨by decide, printable_cons_iff.2 ⟨by decide, printable_hexQuad _⟩⟩
  · rw [unit, if_neg h]
    cases escaped : escape? c with
    | none =>
      have shown : ¬ c.toNat < 0x20 := by simpa [isControl, escaped] using h
      simp only [unitText, escaped]
      exact printable_cons_iff.2 ⟨by omega, List.forall_mem_nil _⟩
    | some letter =>
      simp only [unitText, escaped]
      exact printable_cons_iff.2 ⟨by decide, printable_cons_iff.2
        ⟨printable_of_escape? escaped, List.forall_mem_nil _⟩⟩

theorem printable_text (s : String) : Printable (text (units s)) := by
  have inside : Printable ((units s).flatMap unitText) := by
    rw [units, List.flatMap_map]
    exact printable_flatMap fun c _ => printable_unitText c
  exact printable_append_iff.2 ⟨printable_cons_iff.2 ⟨by decide, inside⟩, by decide⟩

end StringText

/-! ## Documents -/

namespace Lexeme

theorem printable_separate {runs : List (List Lexeme)}
    (h : ∀ run ∈ runs, Printable (run.flatMap text)) :
    Printable ((separate runs).flatMap text) := by
  induction runs with
  | nil => exact List.forall_mem_nil _
  | cons run others ih =>
    obtain ⟨first, later⟩ := List.forall_mem_cons.1 h
    cases others with
    | nil => exact first
    | cons next more =>
      rw [separate, List.flatMap_append, List.flatMap_cons]
      exact printable_append_iff.2 ⟨first, printable_append_iff.2 ⟨by decide, ih later⟩⟩

theorem printable_enclosed (b : Bracket) {run : List Lexeme} (h : Printable (run.flatMap text)) :
    Printable ((opening b :: run ++ [closing b]).flatMap text) := by
  rw [List.flatMap_append, List.flatMap_cons, List.flatMap_singleton]
  have brackets : Printable (opening b).text ∧ Printable (closing b).text := by
    cases b <;> decide
  exact printable_append_iff.2 ⟨printable_append_iff.2 ⟨brackets.1, h⟩, brackets.2⟩

theorem printable_member (key : String) {run : List Lexeme} (h : Printable (run.flatMap text)) :
    Printable ((ofString key :: colon :: run).flatMap text) := by
  rw [List.flatMap_cons, List.flatMap_cons]
  exact printable_append_iff.2
    ⟨StringText.printable_text key, printable_append_iff.2 ⟨by decide, h⟩⟩

end Lexeme

namespace Value

/-- A value is written without control characters, whatever strings, keys and numbers are in it. -/
theorem printable_text (v : Value) : Printable v.text := by
  unfold text
  induction v using Value.induction with
  | null => decide
  | boolean b => cases b <;> decide
  | string s =>
    rw [lexemes, List.flatMap_singleton]
    exact StringText.printable_text s
  | number n =>
    rw [lexemes, List.flatMap_singleton]
    cases spelled : NumberText.ofNumber? n with
    | none => decide
    | some t => exact (NumberText.ofDigits_of_ofNumber? spelled).printable
  | array vs ih =>
    rw [lexemes, lexemesOfElements_eq_map]
    refine Lexeme.printable_enclosed .square (Lexeme.printable_separate fun run member => ?_)
    obtain ⟨v, there, rfl⟩ := List.mem_map.1 member
    exact ih v there
  | object ms ih =>
    rw [lexemes, lexemesOfMembers_eq_map]
    refine Lexeme.printable_enclosed .curly (Lexeme.printable_separate fun run member => ?_)
    obtain ⟨m, there, rfl⟩ := List.mem_map.1 member
    exact Lexeme.printable_member m.1 (ih m there)

theorem printable_render (v : Value) : Printable v.render.toList := by
  rw [render, String.toList_ofList]
  exact v.printable_text

end Value

end CloudImages.Json
