import CloudImages.Json.Lexeme

set_option autoImplicit false

/-! # Writing a document

A value is written as its lexemes, one after the other with no blanks between them. -/

namespace CloudImages.Json

/-- Runs of lexemes with commas between them. -/
def Lexeme.separate : List (List Lexeme) → List Lexeme
  | [] => []
  | [run] => run
  | run :: next :: rest => run ++ .comma :: separate (next :: rest)

namespace Value

mutual

/-- The lexemes of a value. A double that is not finite has no digits and is written as null. -/
def lexemes : Value → List Lexeme
  | .null => [.null]
  | .boolean b => [.boolean b]
  | .number n => [((NumberText.ofNumber? n).map Lexeme.number).getD .null]
  | .string s => [.ofString s]
  | .array elements =>
    .opening .square :: Lexeme.separate (lexemesOfElements elements) ++ [.closing .square]
  | .object members =>
    .opening .curly :: Lexeme.separate (lexemesOfMembers members) ++ [.closing .curly]
termination_by structural v => v

/-- The lexemes of each element of an array. -/
def lexemesOfElements : List Value → List (List Lexeme)
  | [] => []
  | v :: rest => v.lexemes :: lexemesOfElements rest
termination_by structural vs => vs

/-- The lexemes of each member of an object: its key, a colon and its value. -/
def lexemesOfMembers : List (String × Value) → List (List Lexeme)
  | [] => []
  | (key, v) :: rest => (.ofString key :: .colon :: v.lexemes) :: lexemesOfMembers rest
termination_by structural ms => ms

end

/-- The characters of a value. -/
def text (v : Value) : List Char :=
  v.lexemes.flatMap Lexeme.text

/-- The compact text of a value. -/
def render (v : Value) : String :=
  String.ofList v.text

/-! ## Elements and members one by one -/

theorem lexemesOfElements_eq_map (vs : List Value) : lexemesOfElements vs = vs.map lexemes := by
  induction vs with
  | nil => rfl
  | cons v rest ih => rw [lexemesOfElements, ih, List.map_cons]

theorem lexemesOfMembers_eq_map (ms : List (String × Value)) :
    lexemesOfMembers ms = ms.map fun m => .ofString m.1 :: .colon :: m.2.lexemes := by
  induction ms with
  | nil => rfl
  | cons m rest ih => rw [lexemesOfMembers, ih, List.map_cons]

/-- No value begins with a closing bracket. -/
theorem lexemes_eq_cons (v : Value) :
    ∃ first rest, v.lexemes = first :: rest ∧ ∀ b, first ≠ .closing b := by
  cases v with
  | number n => cases h : NumberText.ofNumber? n <;> simp [lexemes, h]
  | null | boolean b | string s | array vs | object ms => simp [lexemes, Lexeme.ofString]

end Value

end CloudImages.Json
