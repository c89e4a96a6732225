import CloudImages.Client.Uri
import CloudImages.Text.Numeral

set_option autoImplicit false

/-! # Settings of a client

How a client talks to the daemon that runs the containers: its address, whether it uses TLS, how
many threads it has, and how long it waits for a connection. -/

namespace CloudImages

/-- Why settings are refused. -/
inductive ClientError where
  | invalidUri (uri : String)
  | invalidPoolSize (size : UInt64)
  | invalidVariable (name value : String)
deriving DecidableEq, Repr

/-- The message for refused settings. -/
def ClientError.message : ClientError → String
  | .invalidUri uri => "invalid Docker instance URI: '" ++ uri ++ "'"
  | .invalidPoolSize size =>
    "invalid thread pool size: " ++ String.ofList (Text.digits size.toNat)
  | .invalidVariable name value => "invalid value for " ++ name ++ ": '" ++ value ++ "'"

/-- The settings of a client. -/
structure Client where
  uri : String
  tls : Bool
  poolSize : UInt64
  /-- The time to wait for a connection, in nanoseconds; zero is for ever. -/
  timeout : Nat
deriving DecidableEq, Repr

namespace Client

/-- The nanoseconds of a millisecond. -/
def nanosPerMilli : Nat :=
  1000000

/-- The nanoseconds of a second. -/
def nanosPerSecond : Nat :=
  1000000000

/-- The timeout of a client that sets none: one minute. -/
def defaultTimeout : Nat :=
  60 * nanosPerSecond

/-- The settings for an address: no TLS, one thread, the default timeout. -/
def create (uri : String) : Except ClientError Client :=
  if Uri.isValid uri.toList then .ok { uri, tls := false, poolSize := 1, timeout := defaultTimeout }
  else .error (.invalidUri uri)

/-- Sets whether TLS is used. -/
def withTls (c : Client) (tls : Bool) : Client :=
  { c with tls }

/-- Sets the number of threads, of which there has to be one. -/
def withPoolSize (c : Client) (size : UInt64) : Except ClientError Client :=
  if size = 0 then .error (.invalidPoolSize size) else .ok { c with poolSize := size }

/-- Sets the timeout, in nanoseconds. -/
def withTimeout (c : Client) (timeout : Nat) : Client :=
  { c with timeout }

/-- The timeout, `none` if the client waits for ever. -/
def timeout? (c : Client) : Option Nat :=
  if c.timeout = 0 then none else some c.timeout

/-- A time of whole seconds and nanoseconds, in nanoseconds. -/
def nanoseconds (seconds nanos : Nat) : Nat :=
  seconds * nanosPerSecond + nanos

end Client

end CloudImages
