import Storyboard.Text.Quoted

/-!
# Why a text is no address
-/

namespace Storyboard.Address

/-- An address of more characters is not read. -/
def maxLength : Nat := 65536

/-- Why a text is no address. -/
inductive Fault where
  | tooLong
  /-- An ASCII control character stands at this position. -/
  | control (char : Char) (position : Nat)
  | port (text : String)
  /-- The host looks like four numbers and is none of the addresses written so. -/
  | fourNumbers (host : String)
  /-- The host is set in brackets and holds no address written so. -/
  | bracketed (host : String)
  /-- The host is no domain name. -/
  | name (host : String)
  /-- The path behind a host begins with no slash. -/
  | unrooted
  /-- A path without scheme and host begins with two slashes. -/
  | twoSlashes
  /-- A path without scheme and host begins with a colon. -/
  | colon
deriving DecidableEq, Repr

/-- The wording of a fault. -/
def Fault.message : Fault → String
  | .tooLong => "URL too long"
  | .control char position =>
    s!"Invalid non-printable ASCII character in URL, {Text.quoted (String.singleton char)} " ++
      s!"at position {position}."
  | .port text => s!"Invalid port: {Text.quoted text}"
  | .fourNumbers host => s!"Invalid IPv4 address: {Text.quoted host}"
  | .bracketed host => s!"Invalid IPv6 address: {Text.quoted host}"
  | .name host => s!"Invalid IDNA hostname: {Text.quoted host}"
  | .unrooted => "For absolute URLs, path must be empty or begin with '/'"
  | .twoSlashes => "Relative URLs cannot have a path starting with '//'"
  | .colon => "Relative URLs cannot have a path starting with ':'"

end Storyboard.Address
