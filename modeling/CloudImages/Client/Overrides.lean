import CloudImages.Client
import CloudImages.Log

set_option autoImplicit false

/-! # Overriding settings

Two settings may be overridden by variables, such as those of an environment: the number of threads
and the timeout. A variable that is set has to hold a numeral, with blanks around it if need be. The
variables are asked for one after the other, and a bad one ends it: the client is then left as it
was, and the variables behind it are not asked for. -/

namespace CloudImages.Client

/-- The variable for the number of threads. -/
def poolSizeVariable : String :=
  "DKC_DOCKER_THREAD_POOL_SIZE"

/-- The variable for the timeout, in milliseconds. -/
def timeoutVariable : String :=
  "DKC_DOCKER_CONNECT_TIMEOUT_MS"

/-- What happens while settings are overridden. -/
inductive Event where
  | poolSizeOverridden (size : UInt64)
  | timeoutOverridden (millis : UInt64)
deriving DecidableEq, Repr

/-- The log record of an event. -/
def Event.record : Event → LogRecord
  | .poolSizeOverridden size =>
    ⟨.debug, "thread pool size overridden from environment",
      [("size", String.ofList (Text.digits size.toNat))]⟩
  | .timeoutOverridden millis =>
    ⟨.debug, "connect timeout overridden from environment",
      [("millis", String.ofList (Text.digits millis.toNat))]⟩

/-- How overriding comes out: the settings, the variables that were asked for, and what happened. -/
structure Overridden where
  result : Except ClientError Client
  asked : List String
  events : List Event

/-- The word that a variable holds. -/
def readVariable (name value : String) : Except ClientError UInt64 :=
  match Text.word64? (Text.trim value.toList) with
  | some word => .ok word
  | none => .error (.invalidVariable name value)

/-- Overrides the number of threads; also gives the word that was set. -/
def overridePoolSize (c : Client) (value : String) : Except ClientError (Client × UInt64) := do
  let size ← readVariable poolSizeVariable value
  let c ← c.withPoolSize size
  return (c, size)

/-- Overrides the timeout; also gives the milliseconds that were set. -/
def overrideTimeout (c : Client) (value : String) : Except ClientError (Client × UInt64) := do
  let millis ← readVariable timeoutVariable value
  return (c.withTimeout (millis.toNat * nanosPerMilli), millis)

/-- Overrides one setting, if its variable is set. -/
def overrideBy (setting : Option String) (override : String → Except ClientError (Client × UInt64))
    (event : UInt64 → Event) (c : Client) : Except ClientError (Client × List Event) :=
  match setting with
  | none => .ok (c, [])
  | some value => (override value).map fun (c, word) => (c, [event word])

/-- Overrides settings by the variables that `lookup` finds. -/
def withOverrides (c : Client) (lookup : String → Option String) : Overridden :=
  match overrideBy (lookup poolSizeVariable) c.overridePoolSize .poolSizeOverridden c with
  | .error error => ⟨.error error, [poolSizeVariable], []⟩
  | .ok (c, first) =>
    match overrideBy (lookup timeoutVariable) c.overrideTimeout .timeoutOverridden c with
    | .error error => ⟨.error error, [poolSizeVariable, timeoutVariable], first⟩
    | .ok (c, second) => ⟨.ok c, [poolSizeVariable, timeoutVariable], first ++ second⟩

/-- The variables of an environment are bytes; one whose bytes are no text counts as not set. -/
def environmentLookup (environment : List (String × ByteArray)) (name : String) : Option String :=
  (environment.lookup name).bind String.fromUTF8?

end CloudImages.Client
