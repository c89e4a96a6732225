import CloudImages.Text.Blank

set_option autoImplicit false

/-! # Addresses of a daemon

An address is `scheme://rest`, such as `unix:///var/run/docker.sock` or `tcp://host:2376`. The
scheme is an ASCII letter with letters, digits, pluses, dots and hyphens behind it, and the rest is
not empty and has no white space in it. -/

namespace CloudImages.Uri

/-- The letters of ASCII. -/
def isLetter (c : Char) : Bool :=
  ('A' ≤ c && c ≤ 'Z') || ('a' ≤ c && c ≤ 'z')

/-- The characters that may follow the first letter of a scheme. -/
def isSchemeChar (c : Char) : Bool :=
  isLetter c || c.isDigit || c == '+' || c == '.' || c == '-'

/-- Whether a text is a colon, two slashes and something without white space. -/
def isAfterScheme : List Char → Bool
  | ':' :: '/' :: '/' :: rest => !rest.isEmpty && rest.all fun c => !Text.isBlank c
  | _ => false

/-- Whether a text is an address. No character of a scheme is a colon, so the scheme ends at the
first character that is none of its own. -/
def isValid : List Char → Bool
  | [] => false
  | c :: rest => isLetter c && isAfterScheme (rest.dropWhile isSchemeChar)

example : isValid "tcp://127.0.0.1:2376".toList = true := by decide +kernel

example : isValid "tcp://host\n".toList = false := by decide +kernel

end CloudImages.Uri
