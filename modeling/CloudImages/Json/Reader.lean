import CloudImages.Json.Lexeme.Scan

set_option autoImplicit false

/-! # Reading a document

A reader takes lexemes from the front of a list and gives what it read and the lexemes left. Arrays
and objects are read by `elements` and `members`, which know the notation and nothing of what the
elements and members are; `value` puts a tree together from them, and readers that want a document
of a certain shape are built from the same two. -/

namespace CloudImages.Json

/-- Takes what it reads from the front of the lexemes. -/
abbrev Reader (α : Type) := List Lexeme → Except Fault (α × List Lexeme)

namespace Reader

variable {α σ : Type}

/-! ## Heads -/

/-- The number of a lexeme. -/
def numberOf (t : NumberText) : Except Fault Number :=
  match t.toNumber? with
  | some n => .ok n
  | none => .error (.malformed .numberOutOfRange)

/-- The text of a string lexeme. -/
def stringOf (units : List TextUnit) (ending : StringEnd) : Except Fault String :=
  (StringText.decode ending units).map String.ofList

/-- The fault of a word that breaks off. -/
def brokenWord : Break → Fault
  | .textEnds => .unfinished .value
  | .strayCharacter => .malformed .expectedWord

/-- The fault of a number that breaks off. -/
def brokenNumber : Break → Fault
  | .textEnds => .unfinished .value
  | .strayCharacter => .malformed .invalidNumber

/-- The head of the value that begins with a lexeme. -/
def headOf : Lexeme → Except Fault Head
  | .null => .ok .null
  | .boolean b => .ok (.boolean b)
  | .number t => (numberOf t).map .number
  | .string units ending => (stringOf units ending).map .string
  | .opening .square => .ok .array
  | .opening .curly => .ok .object
  | .broken (.word how) => .error (brokenWord how)
  | .broken (.number how) => .error (brokenNumber how)
  | .broken .stray | .closing _ | .comma | .colon => .error (.malformed .expectedValue)

/-- Reads the head of a value: all of a scalar, the opening bracket of an array or an object. -/
def head : Reader Head
  | [] => .error (.unfinished .value)
  | first :: rest => do return (← headOf first, rest)

/-! ## Brackets and commas -/

/-- The fault of a text that ends inside brackets. -/
def unfinishedIn : Bracket → Fault
  | .square => .unfinished .list
  | .curly => .unfinished .object

/-- The fault of a lexeme that can neither close the brackets nor go on inside them. -/
def expectedIn : Bracket → Fault
  | .square => .malformed .expectedCommaOrBracket
  | .curly => .malformed .expectedCommaOrBrace

/-- Whether anything stands between the bracket just opened and its partner; the partner is taken if
nothing does. -/
def inside (b : Bracket) : Reader Bool
  | [] => .error (unfinishedIn b)
  | first :: rest => if first = .closing b then .ok (false, rest) else .ok (true, first :: rest)

/-- Whether anything follows what was just read inside brackets: takes a comma if something does,
the closing bracket if nothing does. -/
def another (b : Bracket) : Reader Bool
  | [] => .error (unfinishedIn b)
  | [.comma] => .error (.unfinished .value)
  | .comma :: next :: rest =>
    if next = .closing b then .error (.malformed .trailingComma) else .ok (true, next :: rest)
  | other :: rest => if other = .closing b then .ok (false, rest) else .error (expectedIn b)

theorem inside_closing (b : Bracket) (rest : List Lexeme) :
    inside b (.closing b :: rest) = .ok (false, rest) := by
  simp [inside]

theorem inside_of_ne {b : Bracket} {first : Lexeme} (h : first ≠ .closing b) (rest : List Lexeme) :
    inside b (first :: rest) = .ok (true, first :: rest) := by
  simp [inside, h]

theorem another_closing (b : Bracket) (rest : List Lexeme) :
    another b (.closing b :: rest) = .ok (false, rest) := by
  simp [another]

theorem another_comma {b : Bracket} {next : Lexeme} (h : next ≠ .closing b) (rest : List Lexeme) :
    another b (.comma :: next :: rest) = .ok (true, next :: rest) := by
  simp [another, h]

/-! ## Arrays -/

/-- Reads elements up to the closing bracket; the first must be there. The bound is on their
number. -/
def elementsUpTo (element : Reader α) : Nat → Reader (List α)
  | 0, _ => .error (unfinishedIn .square)
  | bound + 1, lexemes => do
    let (first, lexemes) ← element lexemes
    let (more, lexemes) ← another .square lexemes
    if more then
      let (others, lexemes) ← elementsUpTo element bound lexemes
      return (first :: others, lexemes)
    else return ([first], lexemes)

/-- Reads an array behind its opening bracket. Every element takes a lexeme, so there are no more
elements than lexemes. -/
def elements (element : Reader α) : Reader (List α) := fun lexemes => do
  let (any, lexemes) ← inside .square lexemes
  if any then elementsUpTo element lexemes.length lexemes else return ([], lexemes)

/-! ## Objects -/

/-- Reads a key. -/
def key : Reader String
  | [] => .error (unfinishedIn .curly)
  | .string units ending :: rest => do return (← stringOf units ending, rest)
  | _ => .error (.malformed .keyNotString)

/-- Reads the colon behind a key. -/
def colon : Reader Unit
  | [] => .error (unfinishedIn .curly)
  | .colon :: rest => .ok ((), rest)
  | _ => .error (.malformed .expectedColon)

/-- Reads members up to the closing brace; the first must be there. `member` is asked about each key
before the colon is read and gives the reader of its value, which turns what the members so far have
come to into what they come to with this one. The bound is on their number. -/
def membersUpTo (member : σ → String → Except Fault (Reader σ)) : Nat → σ → Reader σ
  | 0, _, _ => .error (unfinishedIn .curly)
  | bound + 1, state, lexemes => do
    let (name, lexemes) ← key lexemes
    let read ← member state name
    let ((), lexemes) ← colon lexemes
    let (state, lexemes) ← read lexemes
    let (more, lexemes) ← another .curly lexemes
    if more then membersUpTo member bound state lexemes else return (state, lexemes)

/-- Reads an object behind its opening brace. Every member takes a lexeme, so there are no more
members than lexemes. -/
def members (member : σ → String → Except Fault (Reader σ)) (start : σ) : Reader σ :=
  fun lexemes => do
    let (any, lexemes) ← inside .curly lexemes
    if any then membersUpTo member lexemes.length start lexemes else return (start, lexemes)

/-! ## Trees -/

/-- Reads the value of a member and puts it under its key. -/
def memberOf (value : Reader Value) (read : Members Value) (key : String) :
    Except Fault (Reader (Members Value)) :=
  .ok fun lexemes => do
    let (v, lexemes) ← value lexemes
    return (read.put key v, lexemes)

/-- Reads a value whose elements and members are read by `inner`; without an inner reader there is
no room for an array or an object. -/
def valueAround (inner? : Option (Reader Value)) : Reader Value := fun lexemes => do
  let (first, lexemes) ← head lexemes
  match first, inner? with
  | .null, _ => return (.null, lexemes)
  | .boolean b, _ => return (.boolean b, lexemes)
  | .number n, _ => return (.number n, lexemes)
  | .string s, _ => return (.string s, lexemes)
  | .array, some inner => do
    let (found, lexemes) ← elements inner lexemes
    return (.array found, lexemes)
  | .object, some inner => do
    let (found, lexemes) ← members (memberOf inner) [] lexemes
    return (.object found, lexemes)
  | .array, none | .object, none => .error (.malformed .tooDeep)

/-- Reads a value in which arrays and objects nest no deeper than `depth`. -/
def value : Nat → Reader Value
  | 0 => valueAround none
  | depth + 1 => valueAround (some (value depth))

/-! ## Whole texts -/

/-- Reads a text that holds one thing and nothing behind it. -/
def whole (reader : Reader α) (text : String) : Except Fault α := do
  let (found, rest) ← reader (Lexeme.scan text.toList)
  if rest.isEmpty then return found else .error (.malformed .trailingCharacters)

end Reader

/-- How deep arrays and objects may nest in a document. -/
def depthLimit : Nat :=
  127

/-- Reads a document. -/
def Value.ofText (text : String) : Except Fault Value :=
  Reader.whole (Reader.value depthLimit) text

end CloudImages.Json
