import CloudImages.Json.Reader
import CloudImages.Json.Writer

set_option autoImplicit false

/-! # Reading members of a document

Members of an object are read by key and by type. A read either requires its key (`get`) or falls
back on a default (`getOr`); to both of them a member that is null is as good as none. What a type
accepts is told by a `Coercion`: integers and booleans may also be quoted, and scalars of any kind
but null have a text. -/

namespace CloudImages.Json

/-! ## Kinds of value -/

/-- The kinds of value that a message tells apart. -/
inductive Kind where
  | null
  | boolean
  | number
  | string
  | array
  | object
deriving DecidableEq, Repr

/-- What a read asks for. -/
inductive Expected where
  | object
  | array
  | string
  | integer
  | boolean
deriving DecidableEq, Repr

/-- A kind of value in a message. -/
def Kind.describe : Kind → String
  | .null => "null"
  | .boolean => "a boolean"
  | .number => "a number"
  | .string => "a string"
  | .array => "an array"
  | .object => "an object"

/-- What a read asks for, in a message. -/
def Expected.describe : Expected → String
  | .object => "an object"
  | .array => "an array"
  | .string => "a string"
  | .integer => "an integer"
  | .boolean => "a boolean"

/-- The kind of a value. -/
def Value.kind : Value → Kind
  | .null => .null
  | .boolean _ => .boolean
  | .number _ => .number
  | .string _ => .string
  | .array _ => .array
  | .object _ => .object

/-- Why a document, or a part of one, could not be read. -/
inductive AccessError where
  | unreadable (fault : Fault)
  | missingKey (key : String)
  | wrongType (key : String) (expected : Expected) (found : Kind)
  | notA (expected : Expected) (found : Kind)

/-- The message for a document that could not be read. For one that is no JSON it is that of the
fault, which gives no line and no column. -/
def AccessError.message : AccessError → String
  | .unreadable fault => "invalid JSON: " ++ fault.message
  | .missingKey key => "missing key '" ++ key ++ "'"
  | .wrongType key expected found =>
    "'" ++ key ++ "' must be " ++ expected.describe ++ ", found " ++ found.describe
  | .notA expected found => "expected " ++ expected.describe ++ ", found " ++ found.describe

/-! ## Coercions -/

/-- A type of result, and the values that are accepted for it. -/
structure Coercion (α : Type) where
  expected : Expected
  read? : Value → Option α

namespace Coercion

/-- Objects, as they are. -/
def object : Coercion Value where
  expected := .object
  read?
    | .object members => some (.object members)
    | _ => none

/-- Arrays, as they are. -/
def array : Coercion Value where
  expected := .array
  read?
    | .array elements => some (.array elements)
    | _ => none

/-- The text of a string; a number or a boolean as it is written. -/
def text : Coercion String where
  expected := .string
  read?
    | .string s => some s
    | .number n => some (Value.number n).render
    | .boolean b => some (Value.boolean b).render
    | _ => none

/-- Integers of a signed word, or the numeral of one in a string, blanks around it allowed. -/
def integer : Coercion Int64 where
  expected := .integer
  read?
    | .number (.integer n) => Text.int64? n.val
    | .string s => (Text.integer? (Text.trim s.toList)).bind Text.int64?
    | _ => none

/-- Booleans, or their words in a string. -/
def boolean : Coercion Bool where
  expected := .boolean
  read?
    | .boolean b => some b
    | .string s => if s = "true" then some true else if s = "false" then some false else none
    | _ => none

end Coercion

/-! ## Reads -/

namespace Value

variable {α : Type}

/-- Reads a document. -/
def parse (text : String) : Except AccessError Value :=
  match ofText text with
  | .ok v => .ok v
  | .error fault => .error (.unreadable fault)

/-- An array without elements. -/
def emptyArray : Value :=
  .array []

/-- An object without members. -/
def emptyObject : Value :=
  .object []

/-- The value under a key of an object, if there is one and it is not null. -/
def field? (v : Value) (key : String) : Except AccessError (Option Value) :=
  match v with
  | .object members =>
    match members.lookup key with
    | none | some .null => .ok none
    | some found => .ok (some found)
  | other => .error (.notA .object other.kind)

/-- Accepts the value found under a key. -/
def accept (c : Coercion α) (key : String) (found : Value) : Except AccessError α :=
  match c.read? found with
  | some a => .ok a
  | none => .error (.wrongType key c.expected found.kind)

/-- Reads a member that has to be there. -/
def get (c : Coercion α) (v : Value) (key : String) : Except AccessError α := do
  match ← v.field? key with
  | some found => accept c key found
  | none => .error (.missingKey key)

/-- Reads a member, or takes the default if it is absent. -/
def getOr (c : Coercion α) (v : Value) (key : String) (default : α) : Except AccessError α := do
  match ← v.field? key with
  | some found => accept c key found
  | none => .ok default

/-- Reads the value itself, whatever key it may stand under. -/
def asA (c : Coercion α) (v : Value) : Except AccessError α :=
  match c.read? v with
  | some a => .ok a
  | none => .error (.notA c.expected v.kind)

/-- The elements of an array, in order. -/
def elements : Value → Except AccessError (List Value)
  | .array elements => .ok elements
  | other => .error (.notA .array other.kind)

/-- The keys of an object, in order. -/
def keys : Value → Except AccessError (List String)
  | .object members => .ok (Members.names members)
  | other => .error (.notA .object other.kind)

/-! ### The reads differ only where the member is absent -/

theorem get_of_field?_some {c : Coercion α} {v found : Value} {key : String}
    (h : v.field? key = .ok (some found)) : v.get c key = accept c key found := by
  rw [get, h]
  rfl

theorem get_of_field?_none {c : Coercion α} {v : Value} {key : String}
    (h : v.field? key = .ok none) : v.get c key = .error (.missingKey key) := by
  rw [get, h]
  rfl

theorem getOr_of_field?_some {c : Coercion α} {v found : Value} {key : String} {default : α}
    (h : v.field? key = .ok (some found)) : v.getOr c key default = accept c key found := by
  rw [getOr, h]
  rfl

theorem getOr_of_field?_none {c : Coercion α} {v : Value} {key : String} {default : α}
    (h : v.field? key = .ok none) : v.getOr c key default = .ok default := by
  rw [getOr, h]
  rfl

end Value

end CloudImages.Json
