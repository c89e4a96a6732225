import CloudImages.Json.Fault

set_option autoImplicit false

/-! # The text of a string

Between its quotes a string is a run of units: characters, written as they are or by a short
escape, and code units of UTF-16, written in hexadecimal. `scan` finds the units and what ends
them, `decode` joins surrogates and gives the characters, `units` and `text` write a string.
`decode_units` says that the units of a string decode to it. -/

namespace CloudImages.Json

/-- One unit of a string as it is written. -/
inductive TextUnit where
  /-- A character, written as it is or by a short escape. -/
  | plain (c : Char)
  /-- A code unit of UTF-16, written with four hexadecimal digits. -/
  | code (n : Nat)
deriving DecidableEq, Repr

/-- What ends the units of a string. -/
inductive StringEnd where
  | closed
  | unfinished
  | controlCharacter
  | unknownEscape
  | badHex
deriving DecidableEq, Repr

namespace StringText

/-! ## Escapes -/

/-- The character that a short escape stands for. -/
def unescape? : Char → Option Char
  | '"' => some '"'
  | '\\' => some '\\'
  | '/' => some '/'
  | 'b' => some '\x08'
  | 'f' => some '\x0c'
  | 'n' => some '\n'
  | 'r' => some '\r'
  | 't' => some '\t'
  | _ => none

/-- The letter of the short escape with which a character is written. -/
def escape? : Char → Option Char
  | '"' => some '"'
  | '\\' => some '\\'
  | '\x08' => some 'b'
  | '\x0c' => some 'f'
  | '\n' => some 'n'
  | '\r' => some 'r'
  | '\t' => some 't'
  | _ => none

theorem unescape?_of_escape? {c letter : Char} (h : escape? c = some letter) :
    unescape? letter = some c := by
  unfold escape? at h
  split at h
  case h_8 => exact absurd h (by simp)
  all_goals
    cases h
    rfl

/-- Control characters do not stand in a string as they are. -/
def isControl (c : Char) : Bool :=
  c.toNat < 0x20

/-- The value of a hexadecimal digit. -/
def hexValue? (c : Char) : Option Nat :=
  if '0' ≤ c ∧ c ≤ '9' then some (c.toNat - '0'.toNat)
  else if 'a' ≤ c ∧ c ≤ 'f' then some (c.toNat - 'a'.toNat + 10)
  else if 'A' ≤ c ∧ c ≤ 'F' then some (c.toNat - 'A'.toNat + 10)
  else none

/-- The value of four hexadecimal digits. -/
def hexQuad? (a b c d : Char) : Option Nat := do
  let a ← hexValue? a
  let b ← hexValue? b
  let c ← hexValue? c
  let d ← hexValue? d
  return ((a * 16 + b) * 16 + c) * 16 + d

/-- Four hexadecimal digits. -/
def hexQuad (n : Nat) : List Char :=
  [(n / 4096 % 16).digitChar, (n / 256 % 16).digitChar, (n / 16 % 16).digitChar,
    (n % 16).digitChar]

/-! ## Finding the units -/

/-- The bytes that a text takes in UTF-8. -/
def byteCount (cs : List Char) : Nat :=
  cs.foldr (fun c count => c.utf8Size + count) 0

/-- The units after an opening quote, what ends them, and the text behind a closing quote. Where the
string breaks off the rest is of no use and is left empty. An escape in hexadecimal with fewer than
four bytes behind it is cut off by the end of the text. -/
def scan : List Char → List TextUnit × StringEnd × List Char
  | [] => ([], .unfinished, [])
  | '"' :: rest => ([], .closed, rest)
  | '\\' :: 'u' :: a :: b :: c :: d :: rest =>
    match hexQuad? a b c d with
    | some n => let (us, ending, rest) := scan rest; (.code n :: us, ending, rest)
    | none => ([], .badHex, [])
  | '\\' :: 'u' :: rest => ([], if byteCount rest < 4 then .unfinished else .badHex, [])
  | '\\' :: letter :: rest =>
    match unescape? letter with
    | some c => let (us, ending, rest) := scan rest; (.plain c :: us, ending, rest)
    | none => ([], .unknownEscape, [])
  | ['\\'] => ([], .unfinished, [])
  | c :: rest =>
    if isControl c then ([], .controlCharacter, [])
    else let (us, ending, rest) := scan rest; (.plain c :: us, ending, rest)

/-- What is left behind a string is no longer than the text that holds it. -/
theorem length_scan_le (cs : List Char) : (scan cs).2.2.length ≤ cs.length := by
  fun_induction scan cs <;> simp_all <;> omega

/-! ## Decoding -/

/-- The first halves of surrogate pairs. -/
def isLeading (n : Nat) : Bool :=
  0xD800 ≤ n && n < 0xDC00

/-- The second halves of surrogate pairs. -/
def isTrailing (n : Nat) : Bool :=
  0xDC00 ≤ n && n < 0xE000

/-- The character of a surrogate pair. -/
def joinSurrogates (leading trailing : Nat) : Char :=
  Char.ofNat (0x10000 + (leading - 0xD800) * 0x400 + (trailing - 0xDC00))

/-- The fault of a string that is not closed. -/
def endFault? : StringEnd → Option Fault
  | .closed => none
  | .unfinished => some (.unfinished .string)
  | .controlCharacter => some (.malformed .controlCharacter)
  | .unknownEscape | .badHex => some (.malformed .invalidEscape)

/-- The fault of a leading surrogate with no unit behind it. -/
def danglingFault : StringEnd → Fault
  | .unfinished => .unfinished .string
  | .badHex => .malformed .invalidEscape
  | .closed | .controlCharacter | .unknownEscape => .malformed .brokenSurrogatePair

/-- The characters of a string, or its first fault. -/
def decode (ending : StringEnd) : List TextUnit → Except Fault (List Char)
  | [] =>
    match endFault? ending with
    | none => .ok []
    | some fault => .error fault
  | .plain c :: rest => (decode ending rest).map (c :: ·)
  | .code n :: rest =>
    if isTrailing n then .error (.malformed .loneSurrogate)
    else if isLeading n then
      match rest with
      | [] => .error (danglingFault ending)
      | .plain _ :: _ => .error (.malformed .brokenSurrogatePair)
      | .code m :: rest =>
        if isTrailing m then (decode ending rest).map (joinSurrogates n m :: ·)
        else .error (.malformed .loneSurrogate)
    else (decode ending rest).map (Char.ofNat n :: ·)

/-! ## Writing -/

/-- How a character is written in a string. -/
def unit (c : Char) : TextUnit :=
  if isControl c ∧ escape? c = none then .code c.toNat else .plain c

/-- How a string is written. -/
def units (s : String) : List TextUnit :=
  s.toList.map unit

/-- The characters of a unit. -/
def unitText : TextUnit → List Char
  | .plain c =>
    match escape? c with
    | some letter => ['\\', letter]
    | none => [c]
  | .code n => '\\' :: 'u' :: hexQuad n

/-- The characters of a string, its quotes included. -/
def text (us : List TextUnit) : List Char :=
  '"' :: us.flatMap unitText ++ ['"']

/-! ## What is written is read back -/

/-- A code unit that is no surrogate is a character by itself. -/
theorem decode_code_of_single {ending : StringEnd} {n : Nat} {rest : List TextUnit}
    (trailing : isTrailing n = false) (leading : isLeading n = false) :
    decode ending (.code n :: rest) = (decode ending rest).map (Char.ofNat n :: ·) := by
  rw [decode.eq_def]
  simp [trailing, leading]

theorem decode_map_unit (cs : List Char) : decode .closed (cs.map unit) = .ok cs := by
  induction cs with
  | nil => rfl
  | cons c rest ih =>
    by_cases h : isControl c = true ∧ escape? c = none
    · have low : c.toNat < 0x20 := by simpa [isControl] using h.1
      have single : isTrailing c.toNat = false ∧ isLeading c.toNat = false := by
        simp [isTrailing, isLeading]
        omega
      rw [List.map_cons, unit, if_pos h, decode_code_of_single single.1 single.2, ih]
      simp [Except.map]
    · simp [unit, h, decode, ih, Except.map]

theorem decode_units (s : String) : decode .closed (units s) = .ok s.toList :=
  decode_map_unit s.toList

theorem hexValue?_digitChar : ∀ n < 16, hexValue? n.digitChar = some n := by
  decide

theorem hexQuad?_hexQuad {n : Nat} (h : n < 0x10000) :
    hexQuad? (n / 4096 % 16).digitChar (n / 256 % 16).digitChar (n / 16 % 16).digitChar
      (n % 16).digitChar = some n := by
  have digit (k : Nat) : hexValue? (k % 16).digitChar = some (k % 16) :=
    hexValue?_digitChar _ (Nat.mod_lt _ (by decide))
  simp only [hexQuad?, digit, bind, Option.bind, pure, Option.some.injEq]
  omega

/-- A character without an escape is neither a quote nor a backslash. -/
theorem ne_of_escape?_eq_none {c : Char} (h : escape? c = none) : c ≠ '"' ∧ c ≠ '\\' := by
  constructor <;> (rintro rfl; simp [escape?] at h)

/-- The first thing found behind a written character is that character. -/
theorem scan_unitText (c : Char) (tail : List Char) :
    scan (unitText (unit c) ++ tail)
      = (unit c :: (scan tail).1, (scan tail).2.1, (scan tail).2.2) := by
  by_cases h : isControl c = true ∧ escape? c = none
  · have small : c.toNat < 0x10000 := by
      have : c.toNat < 0x20 := by simpa [isControl] using h.1
      omega
    rw [unit, if_pos h]
    simp only [unitText, hexQuad, List.cons_append, List.nil_append]
    rw [scan, hexQuad?_hexQuad small]
  · rw [unit, if_neg h]
    cases escaped : escape? c with
    | none =>
      have shown : isControl c = false := by simpa [escaped] using h
      obtain ⟨notQuote, notBackslash⟩ := ne_of_escape?_eq_none escaped
      simp only [unitText, escaped, List.cons_append, List.nil_append]
      rw [scan.eq_def]
      split <;> simp_all
    | some letter =>
      have back := unescape?_of_escape? escaped
      have notHex : letter ≠ 'u' := by
        rintro rfl
        simp [unescape?] at back
      simp only [unitText, escaped, List.cons_append, List.nil_append]
      rw [scan.eq_5 _ _ (fun _ _ _ _ _ same _ => notHex same) notHex, back]

/-- Behind the opening quote of a written string are its units. -/
theorem scan_units (s : String) (rest : List Char) :
    scan ((units s).flatMap unitText ++ '"' :: rest) = (units s, .closed, rest) := by
  rw [units]
  induction s.toList with
  | nil => rfl
  | cons c cs ih =>
    rw [List.map_cons, List.flatMap_cons, List.append_assoc, scan_unitText, ih]

end StringText

end CloudImages.Json
