import CloudImages.Json.StringText

set_option autoImplicit false

/-! # Lexemes

A JSON text is blanks and lexemes: brackets, commas, colons, words, numbers and strings. Here is
what a lexeme is and how it is written; `CloudImages.Json.Lexeme.Scan` finds the lexemes of a text.
-/

namespace CloudImages.Json

/-- The two shapes of bracket. -/
inductive Bracket where
  | square
  | curly
deriving DecidableEq, Repr

/-- How a lexeme goes wrong: the text ends in it, or goes on with a wrong character. -/
inductive Break where
  | textEnds
  | strayCharacter
deriving DecidableEq, Repr

/-- A place where no lexeme can be found. -/
inductive Breakage where
  | word (how : Break)
  | number (how : Break)
  | stray
deriving DecidableEq, Repr

/-- The smallest parts of a JSON text. -/
inductive Lexeme where
  | opening (b : Bracket)
  | closing (b : Bracket)
  | comma
  | colon
  | null
  | boolean (b : Bool)
  | number (t : NumberText)
  /-- A string; only one that is closed is followed by other lexemes. -/
  | string (units : List TextUnit) (ending : StringEnd)
  | broken (what : Breakage)
deriving DecidableEq, Repr

namespace Lexeme

/-- The characters of a lexeme. -/
def text : Lexeme → List Char
  | .opening .square => ['[']
  | .closing .square => [']']
  | .opening .curly => ['{']
  | .closing .curly => ['}']
  | .comma => [',']
  | .colon => [':']
  | .null => "null".toList
  | .boolean true => "true".toList
  | .boolean false => "false".toList
  | .number t => t.text
  | .string units _ => StringText.text units
  | .broken _ => []

/-- A string as a lexeme. -/
def ofString (s : String) : Lexeme :=
  .string (StringText.units s) .closed

end Lexeme

end CloudImages.Json
