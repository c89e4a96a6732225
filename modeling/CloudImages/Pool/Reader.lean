import CloudImages.Json.Skipper
import CloudImages.Pool

set_option autoImplicit false

/-! # Reading agent pools

Assignments are read straight from the lexemes, without a tree: a list of objects with a profile and
perhaps a pool, their other members skipped. An assignment may also be a list of its profile and its
pool. -/

namespace CloudImages.PoolAssignment

open Json

/-- What messages call an assignment. -/
def recordName : String :=
  "PoolParameter"

/-- What is asked for where an assignment should stand. -/
def wanted : Wanted :=
  .record recordName

/-- What is asked for where a list stands for an assignment. -/
def wantedList : Wanted :=
  .recordOfSize recordName 2

/-! ## Profile and pool -/

/-- Reads a string. -/
def stringReader : Reader String := fun lexemes => do
  let (found, lexemes) ← Reader.head lexemes
  match found with
  | .string s => return (s, lexemes)
  | other => .error (.mismatch (.type other .string))

/-- A number as a pool: it has to be an integer of a signed word. -/
def poolOfNumber (n : Number) : Except Fault Int64 :=
  match n with
  | .double x => .error (.mismatch (.type (.number (.double x)) .int64))
  | .integer i =>
    match Text.int64? i.val with
    | some id => .ok id
    | none => .error (.mismatch (.range (.integer i) .int64))

/-- Reads a pool, or null for none. -/
def poolReader : Reader (Option Int64) := fun lexemes => do
  let (found, lexemes) ← Reader.head lexemes
  match found with
  | .null => return (none, lexemes)
  | .number n => return (some (← poolOfNumber n), lexemes)
  | other => .error (.mismatch (.type other .int64))

/-! ## An assignment as an object -/

/-- What the members read so far have told of an assignment. -/
structure Draft where
  profile : Option String := none
  pool : Option (Option Int64) := none

/-- Chooses the reader for a member; profile and pool may be given once. -/
def member (draft : Draft) (key : String) : Except Fault (Reader Draft) :=
  if key = profileKey then
    if draft.profile.isSome then .error (.mismatch (.duplicateField profileKey))
    else .ok fun lexemes => do
      let (profile, lexemes) ← stringReader lexemes
      return ({ draft with profile := some profile }, lexemes)
  else if key = poolKey then
    if draft.pool.isSome then .error (.mismatch (.duplicateField poolKey))
    else .ok fun lexemes => do
      let (pool, lexemes) ← poolReader lexemes
      return ({ draft with pool := some pool }, lexemes)
  else .ok fun lexemes => do
    let ((), lexemes) ← Reader.skip lexemes
    return (draft, lexemes)

/-- The assignment that an object's members tell of: it must have a profile, and has no pool if none
is given. -/
def Draft.finish (draft : Draft) : Except Fault PoolAssignment :=
  match draft.profile with
  | some profile => .ok { profile, pool := draft.pool.getD none }
  | none => .error (.mismatch (.missingField profileKey))

/-! ## An assignment as a list -/

/-- Reads the closing bracket behind a profile and a pool. -/
def closeReader : Reader Unit
  | [] => .error (.unfinished .list)
  | .closing .square :: rest => return ((), rest)
  | .comma :: .closing .square :: _ => .error (.malformed .trailingComma)
  | _ => .error (.malformed .trailingCharacters)

/-- Reads an assignment behind the opening bracket of a list. -/
def listReader : Reader PoolAssignment := fun lexemes => do
  let (any, lexemes) ← Reader.inside .square lexemes
  if any then
    let (profile, lexemes) ← stringReader lexemes
    let (more, lexemes) ← Reader.another .square lexemes
    if more then
      let (pool, lexemes) ← poolReader lexemes
      let ((), lexemes) ← closeReader lexemes
      return ({ profile, pool }, lexemes)
    else return ({ profile, pool := none }, lexemes)
  else .error (.mismatch (.length 0 wantedList))

/-! ## A list of assignments -/

/-- Reads an assignment. -/
def reader : Reader PoolAssignment := fun lexemes => do
  let (found, lexemes) ← Reader.head lexemes
  match found with
  | .array => listReader lexemes
  | .object => do
    let (draft, lexemes) ← Reader.members member {} lexemes
    return (← draft.finish, lexemes)
  | other => .error (.mismatch (.type other wanted))

/-- Reads a list of assignments. -/
def collectionReader : Reader (List PoolAssignment) := fun lexemes => do
  let (found, lexemes) ← Reader.head lexemes
  match found with
  | .array => Reader.elements reader lexemes
  | other => .error (.mismatch (.type other .list))

/-- Reads a text that holds a list of assignments. -/
def ofText (text : String) : Except Fault (List PoolAssignment) :=
  Reader.whole collectionReader text

end CloudImages.PoolAssignment
