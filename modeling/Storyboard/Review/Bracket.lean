/-!
# Brackets

Each of the three pairs is followed on its own through the whole code, whatever
the other characters are. The first closing bracket without an opening one ends
the search for its pair and is reported with its line; without one, a surplus of
opening brackets is reported.
-/

namespace Storyboard.Review

/-- A pair of brackets. -/
structure BracketPair where
  opener : Char
  closer : Char
  name : String
deriving DecidableEq, Repr

/-- The pairs, in the order of their reports. -/
def bracketPairs : List BracketPair := [
  ⟨'\x7b', '\x7d', "curly braces"⟩,
  ⟨'(', ')', "parentheses"⟩,
  ⟨'[', ']', "square brackets"⟩]

/-- What is wrong with a pair. -/
inductive BracketFault where
  /-- A closing bracket without an opening one, on a line counted from one. -/
  | unmatched (line : Nat)
  /-- That many opening brackets are never closed. -/
  | unclosed (surplus : Nat)
deriving DecidableEq, Repr

/-- Follows a pair through the rest of the code, with `depth` brackets open and on
line `line`. -/
def BracketPair.scan (pair : BracketPair) (depth line : Nat) : List Char → Option BracketFault
  | [] => if depth = 0 then none else some (.unclosed depth)
  | c :: rest =>
    if c = pair.opener then pair.scan (depth + 1) line rest
    else if c = pair.closer then
      match depth with
      | 0 => some (.unmatched line)
      | depth + 1 => pair.scan depth line rest
    else pair.scan depth (if c = '\n' then line + 1 else line) rest

/-- What is wrong with a pair in the code. -/
def BracketPair.fault? (pair : BracketPair) (code : List Char) : Option BracketFault :=
  pair.scan 0 1 code

/-- The wording of a fault. -/
def BracketPair.describe (pair : BracketPair) : BracketFault → String
  | .unmatched line => s!"Unmatched closing '{pair.closer}' on line {line} ({pair.name})"
  | .unclosed surplus => s!"Unbalanced {pair.name}, off by {surplus}"

/-- The reports on all pairs. -/
def bracketIssues (code : List Char) : List String :=
  bracketPairs.filterMap fun pair => (pair.fault? code).map pair.describe

end Storyboard.Review
