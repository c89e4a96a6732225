import CloudImages.Json.Reader

set_option autoImplicit false

/-! # Skipping a value

A value that nobody wants is passed over without being built. The skipper keeps the brackets that
are open, so it is not bound by any depth, and it looks neither at the size of numbers nor at how
surrogates pair up. It words some faults in its own way: a comma asks for a value or a key, whatever
stands behind it, and a number that the text cuts off is a wrong number. -/

namespace CloudImages.Json

/-- What the skipper expects next, given the brackets that are open. -/
inductive SkipState where
  | value
  /-- Behind an opening bracket: an element or a key, or the closing bracket. -/
  | first
  | key
  | colon
  /-- Behind a value: a comma or the closing bracket; nothing if no bracket is open. -/
  | next
deriving DecidableEq, Repr

namespace Skipper

/-- The fault of a text that ends where `state` expects more. -/
def cutShort : SkipState → List Bracket → Fault
  | .value, _ => .unfinished .value
  | .key, _ | .colon, _ => .unfinished .object
  | .first, b :: _ | .next, b :: _ => Reader.unfinishedIn b
  | .first, [] | .next, [] => .unfinished .value

/-- The fault of a number that breaks off: the same wherever it does. -/
def brokenNumber (_ : Break) : Fault :=
  .malformed .invalidNumber

/-- Passes over the lexeme with which a value begins. -/
def skipValue (around : List Bracket) : Lexeme → Except Fault (SkipState × List Bracket)
  | .null | .boolean _ | .number _ => .ok (.next, around)
  | .string _ ending =>
    match StringText.endFault? ending with
    | none => .ok (.next, around)
    | some fault => .error fault
  | .opening b => .ok (.first, b :: around)
  | .broken (.word how) => .error (Reader.brokenWord how)
  | .broken (.number how) => .error (brokenNumber how)
  | .broken .stray | .closing _ | .comma | .colon => .error (.malformed .expectedValue)

/-- Passes over a key. -/
def skipKey (around : List Bracket) : Lexeme → Except Fault (SkipState × List Bracket)
  | .string _ ending =>
    match StringText.endFault? ending with
    | none => .ok (.colon, around)
    | some fault => .error fault
  | _ => .error (.malformed .keyNotString)

/-- What has to follow a comma inside brackets. -/
def afterComma : Bracket → SkipState
  | .square => .value
  | .curly => .key

/-- Passes over what comes first inside brackets. -/
def skipFirst (b : Bracket) (outer : List Bracket) (lexeme : Lexeme) :
    Except Fault (SkipState × List Bracket) :=
  if lexeme = .closing b then .ok (.next, outer)
  else
    match b with
    | .square => skipValue (b :: outer) lexeme
    | .curly => skipKey (b :: outer) lexeme

/-- Passes over what stands behind a value inside brackets. -/
def skipNext (b : Bracket) (outer : List Bracket) (lexeme : Lexeme) :
    Except Fault (SkipState × List Bracket) :=
  if lexeme = .closing b then .ok (.next, outer)
  else if lexeme = .comma then .ok (afterComma b, b :: outer)
  else .error (Reader.expectedIn b)

/-- Passes over a colon. -/
def skipColon (around : List Bracket) : Lexeme → Except Fault (SkipState × List Bracket)
  | .colon => .ok (.value, around)
  | _ => .error (.malformed .expectedColon)

/-- Passes over one lexeme. Behind a value with no bracket around it nothing more is passed over, so
what is asked for there does not matter. -/
def step : SkipState → List Bracket → Lexeme → Except Fault (SkipState × List Bracket)
  | .value, around, lexeme => skipValue around lexeme
  | .key, around, lexeme => skipKey around lexeme
  | .colon, around, lexeme => skipColon around lexeme
  | .first, b :: outer, lexeme => skipFirst b outer lexeme
  | .next, b :: outer, lexeme => skipNext b outer lexeme
  | .first, [], lexeme | .next, [], lexeme => skipValue [] lexeme

/-- Passes over lexemes up to the end of a value that nothing encloses. -/
def run : SkipState → List Bracket → List Lexeme → Except Fault (List Lexeme)
  | .next, [], rest => .ok rest
  | state, around, [] => .error (cutShort state around)
  | state, around, lexeme :: rest => do
    let (state, around) ← step state around lexeme
    run state around rest

end Skipper

/-- Reads a value and forgets it. -/
def Reader.skip : Reader Unit := fun lexemes => do
  return ((), ← Skipper.run .value [] lexemes)

end CloudImages.Json
