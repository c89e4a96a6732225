import CloudImages.Json.Access

set_option autoImplicit false

/-! # Rejected definitions

Why an image definition is rejected. -/

namespace CloudImages

/-- The rule that an image definition breaks. -/
inductive DefinitionError where
  | access (error : Json.AccessError)
  | unsupportedVersion (version : Int64)
  | reservedEnv (entry : String)
  | reservedLabel (key : String)
  | emptyProfile
  | noInstance (count : Int64)
  | tooManyInstances (count : Int64)

/-- A signed word in a message. -/
def describeInt64 (n : Int64) : String :=
  String.ofList (Text.spell n.toInt)

/-- The message for a broken rule. -/
def DefinitionError.message : DefinitionError → String
  | .access error => error.message
  | .unsupportedVersion version =>
    "unsupported image specification version: " ++ describeInt64 version
  | .reservedEnv entry => "variable starts with reserved prefix: " ++ entry
  | .reservedLabel key => "label key starts with reserved prefix: " ++ key
  | .emptyProfile => "profile name cannot be empty"
  | .noInstance count => "at least 1 instance must be allowed, got " ++ describeInt64 count
  | .tooManyInstances count => "max instance count out of range: " ++ describeInt64 count

/-- A definition that is no image: its text, and the rule that it breaks. -/
structure ImageError where
  definition : String
  cause : DefinitionError

/-- The message for a rejected definition: the cause, and on a line of its own the definition. -/
def ImageError.message (error : ImageError) : String :=
  "failed to parse image definition: " ++ error.cause.message ++ "\n" ++ error.definition

end CloudImages
