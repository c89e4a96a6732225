set_option autoImplicit false

/-! # Log records

What the library has to say while it works. Nothing here is written anywhere: operations give back
the records of what they did, in order. -/

namespace CloudImages

/-- How much a record matters. -/
inductive LogLevel where
  | warning
  | debug
deriving DecidableEq, Repr

/-- A message with named details. -/
structure LogRecord where
  level : LogLevel
  message : String
  fields : List (String × String)
deriving DecidableEq, Repr

end CloudImages
