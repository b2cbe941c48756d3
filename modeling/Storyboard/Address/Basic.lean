import Storyboard.Address.Escape
import Storyboard.Address.Fault
import Storyboard.Address.Numeric
import Storyboard.Address.Parts
import Storyboard.Decimal.Layout
import Storyboard.Decimal.Numeral
import Storyboard.Domain.Basic
import Storyboard.Text.Base64
import Storyboard.Text.Pieces

/-!
# Addresses

An address is read into its parts, each in one written form: small letters in the
scheme and the host, no port that the scheme implies, no path components that only
lead up and down, and an escape for each character that a part does not hold.
-/

namespace Storyboard

/-- An address, each part as it is written. -/
structure Address where
  scheme : List Char
  login : List Char
  /-- Without brackets. -/
  host : List Char
  port : Option Int
  path : List Char
  query : Option (List Char)
  fragment : Option (List Char)
deriving DecidableEq, Repr

namespace Address

/-- An ASCII control character. -/
def isControl (c : Char) : Bool := c.toNat < 0x20 || c.toNat = 0x7F

/-- Why the characters of a text are not even cut into parts. -/
def refusal? (text : List Char) : Option Fault :=
  if maxLength < text.length then some .tooLong
  else
    (text.find? isControl).map fun c => .control c (text.takeWhile (!isControl ·)).length

/-- Reads a host. -/
def readHost (host : List Char) : Except Fault (List Char) :=
  let text := String.ofList host
  if looksLikeNumbers host then
    if isFourNumbers host then .ok host else .error (.fourNumbers text)
  else if 2 ≤ host.length && host.head? = some '[' && host.getLast? = some ']' then
    let inside := host.tail.dropLast
    if isBracketed inside then .ok inside else .error (.bracketed text)
  else if host.all (·.toNat < 0x80) then
    .ok (escape hostHeld.contains (host.map Char.toLower))
  else
    match Domain.encode? host with
    | some written => .ok written
    | none => .error (.name text)

/-- The ports that schemes imply. -/
def impliedPorts : List (List Char × Int) := [
  ("ftp".toList, 21), ("http".toList, 80), ("https".toList, 443), ("ws".toList, 80),
  ("wss".toList, 443)]

/-- Reads a port, which is none when the scheme implies it. -/
def readPort (scheme port : List Char) : Except Fault (Option Int) :=
  if port.isEmpty then .ok none
  else
    match Decimal.readWhole (String.ofList port) with
    | .error _ => .error (.port (String.ofList port))
    | .ok number => .ok (if impliedPorts.lookup scheme = some number then none else some number)

/-- Refuses a path that does not go with what stands before it. -/
def checkPath (hasScheme hasAuthority : Bool) (path : List Char) : Except Fault Unit :=
  if hasAuthority then
    if path.isEmpty || path.head? = some '/' then .ok () else .error .unrooted
  else if hasScheme then .ok ()
  else if "//".toList.isPrefixOf path then .error .twoSlashes
  else if path.head? = some ':' then .error .colon
  else .ok ()

/-- Adds a component to those before it: a single dot adds nothing, two dots lead up. -/
def follow (components : List (List Char)) (next : List Char) : List (List Char) :=
  if next = ['.'] then components
  else if next = ['.', '.'] then
    if components = [[]] then components else components.dropLast
  else components ++ [next]

/-- The path without components that only lead up and down. -/
def direct (path : List Char) : List Char :=
  List.intercalate ['/'] ((Text.pieces (· = '/') path).foldl follow [])

/-- Reads an address. -/
def read (source : String) : Except Fault Address := do
  let text := source.toList
  if let some fault := refusal? text then throw fault
  let parts := Parts.ofText text
  let authority := Authority.ofText parts.authority
  let login := escape (printableBut loginEscaped) authority.login
  let host ← readHost authority.host
  let port ← readPort parts.scheme authority.port
  let hasScheme := !parts.scheme.isEmpty
  let hasAuthority := !login.isEmpty || !host.isEmpty || port.isSome
  checkPath hasScheme hasAuthority parts.path
  let path := if hasScheme || hasAuthority then direct parts.path else parts.path
  return {
    scheme := parts.scheme.map Char.toLower
    login, host, port
    path := escape (printableBut pathEscaped) path
    query := parts.query.map (escape (printableBut queryEscaped))
    fragment := parts.fragment.map (escape (printableBut fragmentEscaped)) }

/-- A part behind its mark. -/
def marked (mark : Char) : Option (List Char) → List Char
  | some part => mark :: part
  | none => []

/-- The host with its port. -/
def place (address : Address) : List Char :=
  (if address.host.contains ':' then '[' :: address.host ++ [']'] else address.host) ++
    marked ':' (address.port.map fun port => (Decimal.wholeText port).toList)

/-- The login, host and port. -/
def authority (address : Address) : List Char :=
  (if address.login.isEmpty then [] else address.login ++ ['@']) ++ address.place

/-- The written form of an address. -/
def text (address : Address) : String :=
  String.ofList <|
    (if address.scheme.isEmpty then [] else address.scheme ++ [':']) ++
    (if address.authority.isEmpty then [] else "//".toList ++ address.authority) ++
    address.path ++ marked '?' address.query ++ marked '#' address.fragment

/-- The address tells neither how nor where to go. -/
def isRelative (address : Address) : Bool := address.scheme.isEmpty || address.host.isEmpty

/-- The address that a request goes to: of a relative one only path and query, behind
one slash. -/
def target (address : Address) : Address :=
  if address.isRelative then
    let path := if address.path.isEmpty then ['/'] else address.path
    let whole := (path ++ marked '?' address.query).dropWhile (· = '/')
    let isPath (c : Char) : Bool := c != '?'
    { scheme := [], login := [], host := [], port := none
      path := '/' :: whole.takeWhile isPath
      query := (whole.dropWhile isPath).tail?
      fragment := none }
  else address

/-- The credential that a login stands for, a user with a password. -/
def credential? (address : Address) : Option String :=
  if address.login = [] || address.login = [':'] then none
  else
    let login := if address.login.contains ':' then address.login else address.login ++ [':']
    some ("Basic " ++ String.ofList (Text.base64 (Text.mend (unescape login))))

end Address

end Storyboard
