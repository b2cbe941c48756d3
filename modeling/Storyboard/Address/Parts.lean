/-!
# The parts of an address

Every text can be cut into the parts of an address: a scheme before a colon, an
authority behind two slashes, a path, a query behind a question mark and a
fragment behind a number sign. An authority in turn is a login before the last at
sign, a host, and a port behind it. A host in brackets may hold colons.
-/

namespace Storyboard.Address

/-- The parts of an address, as they are written. A part that is missing is told
from an empty one where it makes a difference. -/
structure Parts where
  scheme : List Char
  authority : List Char
  path : List Char
  query : Option (List Char)
  fragment : Option (List Char)
deriving DecidableEq, Repr

/-- The parts of an authority, as they are written. -/
structure Authority where
  login : List Char
  host : List Char
  port : List Char
deriving DecidableEq, Repr

/-- Characters of a scheme after its first letter. -/
def isSchemeChar (c : Char) : Bool := c.isAlphanum || c == '+' || c == '.' || c == '-'

/-- The scheme at the head with what follows its colon. A colon at the very head
ends an empty scheme. -/
def splitScheme (text : List Char) : List Char × List Char :=
  let scheme := text.takeWhile isSchemeChar
  match scheme.head?.any Char.isAlpha, text.drop scheme.length, text with
  | true, ':' :: rest, _ => (scheme, rest)
  | _, _, ':' :: rest => ([], rest)
  | _, _, _ => ([], text)

/-- The authority at the head, behind two slashes, with what follows it. -/
def splitAuthority : List Char → List Char × List Char
  | '/' :: '/' :: rest =>
    let isPart (c : Char) : Bool := c != '/' && c != '?' && c != '#'
    (rest.takeWhile isPart, rest.dropWhile isPart)
  | text => ([], text)

/-- The part behind a mark at the head, up to the character `stop`, with what follows. -/
def splitMarked (mark : Char) (stop : Char → Bool) : List Char → Option (List Char) × List Char
  | [] => (none, [])
  | c :: rest =>
    if c = mark then (some (rest.takeWhile (!stop ·)), rest.dropWhile (!stop ·))
    else (none, c :: rest)

/-- Cuts a text into the parts of an address. -/
def Parts.ofText (text : List Char) : Parts :=
  let (scheme, rest) := splitScheme text
  let (authority, rest) := splitAuthority rest
  let isPath (c : Char) : Bool := c != '?' && c != '#'
  let (query, tail) := splitMarked '?' (· == '#') (rest.dropWhile isPath)
  ⟨scheme, authority, rest.takeWhile isPath, query, (splitMarked '#' (fun _ => false) tail).1⟩

/-- The parts before and after the last occurrence of a character. -/
def splitLast? (mark : Char) (text : List Char) : Option (List Char × List Char) :=
  let tail := (text.reverse.takeWhile (· ≠ mark)).reverse
  if tail.length < text.length then some (text.take (text.length - tail.length - 1), tail) else none

/-- Cuts an authority into its parts. -/
def Authority.ofText (text : List Char) : Authority :=
  let (login, rest) := (splitLast? '@' text).getD ([], text)
  let (host, tail) :=
    match rest.head?, splitLast? ']' rest with
    | some '[', some (inside, tail) => (inside ++ [']'], tail)
    | _, _ => (rest.takeWhile (· ≠ ':'), rest.dropWhile (· ≠ ':'))
  ⟨login, host, if tail.head? = some ':' then tail.tail else tail⟩

end Storyboard.Address
