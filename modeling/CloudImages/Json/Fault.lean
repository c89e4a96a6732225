import CloudImages.Json.NumberText
import CloudImages.Text.Quoted

set_option autoImplicit false

/-! # What can be wrong with a JSON text

A text that cannot be read breaks off too early, breaks a rule of the notation, or is well formed
but not of the shape that its reader wants. Only the first fault from the left is ever reported. -/

namespace CloudImages.Json

/-! ## How a value begins -/

/-- What can be told of a value from its first lexeme: all of a scalar, and of an array or an object
that it is one. -/
inductive Head where
  | null
  | boolean (b : Bool)
  | number (n : Number)
  | string (s : String)
  | array
  | object

/-- A number in a message. -/
def Number.describe (n : Number) : String :=
  let text := String.ofList (((NumberText.ofNumber? n).map NumberText.text).getD [])
  match n with
  | .integer _ => "integer `" ++ text ++ "`"
  | .double _ => "floating point `" ++ text ++ "`"

/-- The head of a value in a message. -/
def Head.describe : Head → String
  | .null => "null"
  | .boolean true => "boolean `true`"
  | .boolean false => "boolean `false`"
  | .number n => n.describe
  | .string s => "string " ++ Text.quoted s
  | .array => "sequence"
  | .object => "map"

/-! ## Faults -/

/-- What was being read when the text ended. -/
inductive Unfinished where
  | value
  | list
  | object
  | string
deriving DecidableEq, Repr

/-- A rule of the notation that a text breaks. -/
inductive Malformed where
  | expectedValue
  | expectedWord
  | expectedColon
  | expectedCommaOrBracket
  | expectedCommaOrBrace
  | keyNotString
  | trailingComma
  | trailingCharacters
  | invalidNumber
  | numberOutOfRange
  | controlCharacter
  | invalidEscape
  | loneSurrogate
  | brokenSurrogatePair
  | tooDeep
deriving DecidableEq, Repr

/-- What a reader of a certain shape asks for. -/
inductive Wanted where
  | list
  | string
  | int64
  | record (name : String)
  | recordOfSize (name : String) (size : Nat)
deriving DecidableEq, Repr

/-- A value that is not of the shape its reader asks for. -/
inductive Mismatch where
  | type (found : Head) (wanted : Wanted)
  | range (found : Number) (wanted : Wanted)
  | length (found : Nat) (wanted : Wanted)
  | missingField (name : String)
  | duplicateField (name : String)

/-- Why a text could not be read. -/
inductive Fault where
  | unfinished (what : Unfinished)
  | malformed (rule : Malformed)
  | mismatch (what : Mismatch)

/-! ## Messages -/

/-- The message for a text that ends too early. -/
def Unfinished.message : Unfinished → String
  | .value => "EOF while parsing a value"
  | .list => "EOF while parsing a list"
  | .object => "EOF while parsing an object"
  | .string => "EOF while parsing a string"

/-- The message for a broken rule. -/
def Malformed.message : Malformed → String
  | .expectedValue => "expected value"
  | .expectedWord => "expected ident"
  | .expectedColon => "expected `:`"
  | .expectedCommaOrBracket => "expected `,` or `]`"
  | .expectedCommaOrBrace => "expected `,` or `\x7d`"
  | .keyNotString => "key must be a string"
  | .trailingComma => "trailing comma"
  | .trailingCharacters => "trailing characters"
  | .invalidNumber => "invalid number"
  | .numberOutOfRange => "number out of range"
  | .controlCharacter =>
    "control character (\\u0000-\\u001F) found while parsing a string"
  | .invalidEscape => "invalid escape"
  | .loneSurrogate => "lone leading surrogate in hex escape"
  | .brokenSurrogatePair => "unexpected end of hex escape"
  | .tooDeep => "recursion limit exceeded"

/-- What is asked for, in a message. -/
def Wanted.describe : Wanted → String
  | .list => "a sequence"
  | .string => "a string"
  | .int64 => "i64"
  | .record name => "struct " ++ name
  | .recordOfSize name size =>
    "struct " ++ name ++ " with " ++ String.ofList (Text.digits size) ++ " elements"

/-- The message for a value of the wrong shape. -/
def Mismatch.message : Mismatch → String
  | .type found wanted => "invalid type: " ++ found.describe ++ ", expected " ++ wanted.describe
  | .range found wanted => "invalid value: " ++ found.describe ++ ", expected " ++ wanted.describe
  | .length found wanted =>
    "invalid length " ++ String.ofList (Text.digits found) ++ ", expected " ++ wanted.describe
  | .missingField name => "missing field `" ++ name ++ "`"
  | .duplicateField name => "duplicate field `" ++ name ++ "`"

/-- The message for a fault. It says what is wrong and not where: a message has no line and no
column of the text. -/
def Fault.message : Fault → String
  | .unfinished what => what.message
  | .malformed rule => rule.message
  | .mismatch what => what.message

end CloudImages.Json
