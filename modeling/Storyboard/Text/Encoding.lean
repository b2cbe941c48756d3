import Storyboard.Text.Half

/-!
# Texts that an encoding has no form for

ASCII holds the first hundred and twenty-eight characters, UTF-8 all but lone
halves. `encodeFault?` finds the first run of characters without a form; there is
none exactly when each character has one.
-/

namespace Storyboard.Text

/-- How a text is turned into bytes. -/
inductive Encoding where
  | ascii
  | utf8
deriving DecidableEq, Repr

/-- A character has a form in an encoding. -/
def Encoding.holds : Encoding → Char → Bool
  | .ascii, c => c.toNat < 0x80
  | .utf8, c => !keepsHalf c

/-- A run of characters that an encoding has no form for: its first character, and
where it begins and ends. -/
structure EncodeFault where
  encoding : Encoding
  char : Char
  first : Nat
  last : Nat
deriving DecidableEq, Repr

/-- The first run of characters that an encoding has no form for. -/
def encodeFault? (encoding : Encoding) (text : String) : Option EncodeFault :=
  let chars := text.toList
  let before := (chars.takeWhile encoding.holds).length
  let run := (chars.drop before).takeWhile (!encoding.holds ·)
  run.head?.map fun c => ⟨encoding, c, before, before + run.length - 1⟩

/-- The name of an encoding in messages. -/
def Encoding.name : Encoding → String
  | .ascii => "ascii"
  | .utf8 => "utf-8"

/-- Why an encoding has no form for a character. -/
def Encoding.limit : Encoding → String
  | .ascii => "ordinal not in range(128)"
  | .utf8 => "surrogates not allowed"

/-- The wording of a fault. -/
def EncodeFault.message (fault : EncodeFault) : String :=
  let place :=
    if fault.first = fault.last then
      s!"character '{String.ofList (codeEscape fault.char)}' in position {fault.first}"
    else s!"characters in position {fault.first}-{fault.last}"
  s!"'{fault.encoding.name}' codec can't encode {place}: {fault.encoding.limit}"

theorem encodeFault?_eq_none {encoding : Encoding} {text : String}
    (h : ∀ c ∈ text.toList, encoding.holds c = true) : encodeFault? encoding text = none := by
  have whole : text.toList.takeWhile encoding.holds = text.toList := by
    simpa using @List.takeWhile_append_of_pos _ encoding.holds text.toList [] h
  simp [encodeFault?, whole]

end Storyboard.Text
