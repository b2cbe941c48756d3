/-!
# Punycode

A label beyond ASCII is written with ASCII letters and digits: its ASCII characters
first, then, behind a hyphen, where each other character is inserted. Insertions
are ordered by character and place; each is the count of possible insertions that
lie between it and the one before. Such a count is a number of changing base whose
digits are letters, least one first, and the base adapts to the numbers so far.
-/

namespace Storyboard.Domain.Punycode

/-- How many digits there are. -/
def base : Nat := 36

/-- The least and the greatest digit that may end a number. -/
def leastEnd : Nat := 1

def greatestEnd : Nat := 26

/-- The bias of the first number. -/
def firstBias : Nat := 72

/-- Characters from here on are inserted. -/
def firstInserted : Nat := 0x80

/-- The letter of a digit. -/
def digitChar (digit : Nat) : Char :=
  if digit < 26 then Char.ofNat ('a'.toNat + digit) else Char.ofNat ('0'.toNat + (digit - 26))

/-- The digit of a letter. -/
def digitOf? (c : Char) : Option Nat :=
  if c.isLower then some (c.toNat - 'a'.toNat)
  else if c.isUpper then some (c.toNat - 'A'.toNat)
  else if c.isDigit then some (c.toNat - '0'.toNat + 26)
  else none

/-- Digits below this end a number; `place` is the count of digits before, times the base. -/
def threshold (place bias : Nat) : Nat := max leastEnd (min greatestEnd (place + base - bias))

theorem threshold_pos (place bias : Nat) : 0 < threshold place bias := by
  unfold threshold leastEnd
  omega

/-- The bias for numbers of this size, and `place` more. -/
def settle (size place : Nat) : Nat :=
  let span := base - leastEnd
  if span * greatestEnd / 2 < size then settle (size / span) (place + base)
  else place + (span + 1) * size / (size + 38)
termination_by size
decreasing_by
  simp only [base, leastEnd, greatestEnd] at *
  omega

/-- The bias after a number, with so many characters in place. -/
def adapt (number count : Nat) (isFirst : Bool) : Nat :=
  let size := if isFirst then number / 700 else number / 2
  settle (size + size / count) 0

/-- The digits of a number from a place on. -/
def digits (bias place number : Nat) : List Char :=
  let limit := threshold place bias
  if number < limit then [digitChar number]
  else
    digitChar (limit + (number - limit) % (base - limit)) ::
      digits bias (place + base) ((number - limit) / (base - limit))
termination_by number
decreasing_by
  have := threshold_pos place bias
  exact Nat.lt_of_le_of_lt (Nat.div_le_self _ _) (by omega)

/-- How far a label is written. -/
structure Progress where
  /-- Insertions passed since the last number. -/
  passed : Nat
  bias : Nat
  /-- The count of characters in place. -/
  placed : Nat
  /-- How many of them were there at the start. -/
  plain : Nat
  written : List Char

/-- Passes a character of the label while those of this code are inserted. -/
def Progress.step (code : Nat) (progress : Progress) (c : Char) : Progress :=
  if c.toNat < code then { progress with passed := progress.passed + 1 }
  else if c.toNat = code then
    { progress with
      passed := 0
      bias := adapt progress.passed (progress.placed + 1) (progress.placed = progress.plain)
      placed := progress.placed + 1
      written := progress.written ++ digits progress.bias 0 progress.passed }
  else progress

/-- Inserts the characters of these codes, which lie from `next` on. -/
def Progress.insertAll (label : List Char) (next : Nat) (progress : Progress) :
    List Nat → Progress
  | [] => progress
  | code :: rest =>
    let reached := { progress with
      passed := progress.passed + (code - next) * (progress.placed + 1) }
    let done := label.foldl (Progress.step code) reached
    Progress.insertAll label (code + 1) { done with passed := done.passed + 1 } rest

/-- The codes that are inserted into a label, each once, in order. -/
def insertedCodes (label : List Char) : List Nat :=
  ((label.map Char.toNat).filter (firstInserted ≤ ·)).eraseDups.mergeSort (· ≤ ·)

/-- The ASCII characters of a label. -/
def plainChars (label : List Char) : List Char := label.filter (·.toNat < firstInserted)

/-- Writes a label. -/
def encode (label : List Char) : List Char :=
  let plain := plainChars label
  let start : Progress := ⟨0, firstBias, plain.length, plain.length, []⟩
  let inserted := (start.insertAll label firstInserted (insertedCodes label)).written
  if plain.isEmpty then inserted else plain ++ '-' :: inserted

/-- Reads a number of which `value` has been read, and the next digit counts `weight`. -/
def readNumber? (bias place weight value : Nat) : List Char → Option (Nat × List Char)
  | [] => none
  | c :: rest =>
    (digitOf? c).bind fun digit =>
      let limit := threshold place bias
      let value := value + digit * weight
      if digit < limit then some (value, rest)
      else readNumber? bias (place + base) (weight * (base - limit)) value rest

theorem readNumber?_length {bias place weight value number : Nat} {text rest : List Char}
    (h : readNumber? bias place weight value text = some (number, rest)) :
    rest.length < text.length := by
  induction text generalizing place weight value with
  | nil => simp [readNumber?] at h
  | cons c more ih =>
    simp only [readNumber?, Option.bind_eq_some_iff] at h
    obtain ⟨digit, _, h⟩ := h
    split at h
    · simp_all
    · exact Nat.lt_succ_of_lt (ih h)

/-- Inserts characters into `placed` as the numbers of a text say. The next character
is `code` or beyond, and `position` the first place for it. -/
def insertFrom? (placed : List Char) (code position bias : Nat) (isFirst : Bool)
    (text : List Char) : Option (List Char) :=
  if text.isEmpty then some placed
  else
    match h : readNumber? bias 0 1 0 text with
    | none => none
    | some (number, rest) =>
      let count := placed.length + 1
      let code := code + (position + number) / count
      let position := (position + number) % count
      if 0x110000 ≤ code then none
      else
        let placed := placed.take position ++ Char.ofNat code :: placed.drop position
        insertFrom? placed code (position + 1) (adapt number count isFirst) false rest
termination_by text.length
decreasing_by exact readNumber?_length h

/-- Reads a label. -/
def decode? (text : List Char) : Option (List Char) :=
  let inserted := (text.reverse.takeWhile (· ≠ '-')).reverse
  let plain := (text.take (text.length - inserted.length)).dropLast
  insertFrom? plain firstInserted 0 firstBias true inserted

end Storyboard.Domain.Punycode
