import CloudImages.Text.Unprintable

set_option autoImplicit false

/-! # Quoted text

How a message quotes a text for a reader: between double quotes, with short escapes for the
characters that have one, and `\u` with the code point in braces for those that would not show. -/

namespace CloudImages.Text

/-- The characters of a quotation that have an escape of one letter. -/
def quotedEscape? : Char → Option Char
  | '\x00' => some '0'
  | '\t' => some 't'
  | '\n' => some 'n'
  | '\r' => some 'r'
  | '"' => some '"'
  | '\\' => some '\\'
  | _ => none

/-- One character inside a quotation. -/
def quotedChar (c : Char) : List Char :=
  match quotedEscape? c with
  | some letter => ['\\', letter]
  | none =>
    if isUnprintable c then ['\\', 'u', '{'] ++ Nat.toDigits 16 c.toNat ++ ['}'] else [c]

/-- A text between double quotes. -/
def quoted (text : String) : String :=
  String.ofList ('"' :: text.toList.flatMap quotedChar ++ ['"'])

example : quoted "it's \"a\"\n" = "\"it's \\\"a\\\"\\n\"" := by decide +kernel

example : quotedChar '\x1b' = ['\\', 'u', '{', '1', 'b', '}'] := by decide +kernel

end CloudImages.Text
