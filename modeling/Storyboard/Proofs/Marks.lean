import Storyboard.Proofs.Markup

/-!
# Marks of the stage

The text outside of strings is read into words, numbers and signs, and in these each use of
a name that stages a video is a mark: where a scene is defined and shown, where it leaves,
which image it takes, and where sequences open and close. Such a name in any other place is
a stray mark, so no use of it goes unseen.

The reader is a machine that carries the word it is in. What it reads from a concatenation
is what it reads from the parts, each from the word in which the one before ends.
-/

namespace Storyboard.Marks

open Decimal (digitsOf isDigit_digitsOf)

/-- Words of the language and of the stage that marks are made of. -/
inductive Keyword where
  | const
  | useExit
  | images
  | sequence
  | audio
  | src
  | audioUrl
  | start
  | duration
deriving DecidableEq, Repr

def Keyword.text : Keyword → String
  | const => "const"
  | useExit => "useExit"
  | images => "images"
  | sequence => "Sequence"
  | audio => "Audio"
  | src => "src"
  | audioUrl => "audioUrl"
  | start => "from"
  | duration => "durationInFrames"

def keywords : List Keyword :=
  [.const, .useExit, .images, .sequence, .audio, .src, .audioUrl, .start, .duration]

/-- A word of the code, or a sign between words. -/
inductive Lexeme where
  | keyword (word : Keyword)
  | number (value : Nat)
  /-- The name of the scene with a number. -/
  | scene (index : Nat)
  | other (word : List Char)
  | sign (c : Char)
deriving DecidableEq, Repr

def sceneStem : List Char := ['S', 'c', 'e', 'n', 'e']

/-- The word that these characters make up. -/
def Lexeme.ofWord (word : List Char) : Lexeme :=
  if word.all Char.isDigit then .number (Nat.ofDigitChars 10 word 0)
  else if sceneStem.isPrefixOf word && (word.drop sceneStem.length).all Char.isDigit &&
      !(word.drop sceneStem.length).isEmpty then
    .scene (Nat.ofDigitChars 10 (word.drop sceneStem.length) 0)
  else match keywords.find? (fun known => known.text.toList = word) with
    | some known => .keyword known
    | none => .other word

def isNameChar (c : Char) : Bool := c.isAlphanum || c = '_' || c = '$'

def isGap (c : Char) : Bool := c = ' ' || c = '\n'

/-- The word that ends here, if there is one. -/
def flush (word : List Char) : List Lexeme := if word.isEmpty then [] else [.ofWord word]

/-- Reads a text from within a word; the result is what was read and the word at the end. -/
def run (word : List Char) : List Char → List Lexeme × List Char
  | [] => ([], word)
  | c :: rest =>
    if isNameChar c then run (word ++ [c]) rest
    else
      let (lexemes, last) := run [] rest
      (flush word ++ (if isGap c then [] else [.sign c]) ++ lexemes, last)

def lexemes (text : List Char) : List Lexeme := (run [] text).1 ++ flush (run [] text).2

/-- A use of a name of the stage. -/
inductive Mark where
  /-- `const Scene2 =` -/
  | defines (index : Nat)
  /-- `useExit(5, 30)` -/
  | exits (first frames : Int)
  /-- `images[2]` -/
  | takes (image : Nat)
  /-- An opening tag of a sequence with its first frame and its count of frames. -/
  | opens (start frames : Int)
  | shows (index : Nat)
  | plays
  | closes
  /-- A name of the stage in any other place. -/
  | stray (lexeme : Lexeme)
deriving DecidableEq, Repr

/-- The names of the stage. Whatever begins like the name of a scene is one of them. -/
def Lexeme.isWatched : Lexeme → Bool
  | .keyword word => word ∈ [.useExit, .images, .sequence, .audio]
  | .scene _ => true
  | .other word => sceneStem.isPrefixOf word
  | .number _ | .sign _ => false

/-- The mark that a name of the stage is, among the words before it, nearest first, and
after it. -/
def use : Lexeme → List Lexeme → List Lexeme → Mark
  | .scene index, .keyword .const :: _, .sign '=' :: _ => .defines index
  | .scene index, .sign '<' :: _, .sign '/' :: .sign '>' :: _ => .shows index
  | .keyword .useExit, _,
    .sign '(' :: .number first :: .sign ',' :: .number frames :: .sign ')' :: _ =>
    .exits first frames
  | .keyword .images, _, .sign '[' :: .number image :: .sign ']' :: _ => .takes image
  | .keyword .sequence, .sign '<' :: _,
    .keyword .start :: .sign '=' :: .sign '{' :: .number start :: .sign '}' ::
    .keyword .duration :: .sign '=' :: .sign '{' :: .number frames :: .sign '}' ::
    .sign '>' :: _ => .opens start frames
  | .keyword .sequence, .sign '/' :: .sign '<' :: _, .sign '>' :: _ => .closes
  | .keyword .audio, .sign '<' :: _,
    .keyword .src :: .sign '=' :: .sign '{' :: .keyword .audioUrl :: .sign '}' ::
    .sign '/' :: .sign '>' :: _ => .plays
  | lexeme, _, _ => .stray lexeme

/-- The marks in what follows these words. -/
def scan (before : List Lexeme) : List Lexeme → List Mark
  | [] => []
  | lexeme :: after =>
    (if lexeme.isWatched then [use lexeme before after] else []) ++ scan (lexeme :: before) after

def marks (text : List Char) : List Mark := scan [] (lexemes text)

section Machine

theorem run_append (word first second : List Char) :
    run word (first ++ second) =
      ((run word first).1 ++ (run (run word first).2 second).1,
        (run (run word first).2 second).2) := by
  induction first generalizing word with
  | nil => rfl
  | cons c first ih =>
    rw [List.cons_append, run, run]
    split
    · exact ih _
    · rw [ih]
      simp only [List.append_assoc]

theorem run_names {word text : List Char} (h : ∀ c ∈ text, isNameChar c = true) :
    run word text = ([], word ++ text) := by
  induction text generalizing word with
  | nil => rw [run, List.append_nil]
  | cons c text ih =>
    rw [run, if_pos (h c List.mem_cons_self), ih fun d hd => h d (List.mem_cons_of_mem _ hd),
      List.append_assoc, List.singleton_append]

/-- A text that does not go on with a word ends the word before it. -/
theorem run_flush (word : List Char) {text : List Char} {c : Char} (hc : isNameChar c = false) :
    run word (c :: text) = (flush word ++ (run [] (c :: text)).1, (run [] (c :: text)).2) := by
  have hnot : ¬ isNameChar c = true := by simp [hc]
  simp only [run, if_neg hnot, List.append_assoc]
  rfl

theorem isNameChar_of_isDigit {c : Char} (h : c.isDigit = true) : isNameChar c = true := by
  simp [isNameChar, Char.isAlphanum, h]

theorem run_digits (word : List Char) (n : Nat) :
    run word (digitsOf n) = ([], word ++ digitsOf n) :=
  run_names fun _ hc => isNameChar_of_isDigit (isDigit_digitsOf hc)

theorem digitsOf_isEmpty (n : Nat) : (digitsOf n).isEmpty = false := by
  rw [List.isEmpty_eq_false_iff]
  exact Nat.toDigits_ne_nil

theorem all_digitsOf (n : Nat) : (digitsOf n).all Char.isDigit = true :=
  List.all_eq_true.mpr (fun _ => isDigit_digitsOf)

theorem ofDigitChars_digitsOf (n : Nat) : Nat.ofDigitChars 10 (digitsOf n) 0 = n :=
  Nat.ofDigitChars_toDigits (by decide) (by decide)

theorem flush_digits (n : Nat) : flush (digitsOf n) = [.number n] := by
  rw [flush, digitsOf_isEmpty, Lexeme.ofWord, if_pos (all_digitsOf n), ofDigitChars_digitsOf]
  rfl

theorem flush_scene (n : Nat) : flush (sceneStem ++ digitsOf n) = [.scene n] := by
  have hword : (sceneStem ++ digitsOf n).all Char.isDigit = false := by
    rw [List.all_append]
    rfl
  have hrest : (sceneStem ++ digitsOf n).drop sceneStem.length = digitsOf n := List.drop_left
  have hstem : sceneStem.isPrefixOf (sceneStem ++ digitsOf n) = true :=
    List.isPrefixOf_iff_prefix.mpr (List.prefix_append _ _)
  have hname : (sceneStem.isPrefixOf (sceneStem ++ digitsOf n) && (digitsOf n).all Char.isDigit &&
      !(digitsOf n).isEmpty) = true := by
    rw [hstem, all_digitsOf, digitsOf_isEmpty]
    rfl
  have hnonempty : (sceneStem ++ digitsOf n).isEmpty = false := rfl
  rw [flush, hnonempty, Lexeme.ofWord, hword, hrest, if_pos hname, ofDigitChars_digitsOf]
  rfl

end Machine

section Scanning

/-- These words contribute these marks, whatever stands around them. -/
def Gives (words : List Lexeme) (found : List Mark) : Prop :=
  ∀ before after, scan before (words ++ after) = found ++ scan (words.reverse ++ before) after

theorem Gives.append {first second : List Lexeme} {found more : List Mark}
    (h : Gives first found) (h' : Gives second more) :
    Gives (first ++ second) (found ++ more) := by
  intro before after
  rw [List.append_assoc, h, h', List.reverse_append, List.append_assoc, List.append_assoc]

theorem gives_quiet {words : List Lexeme} (h : ∀ lexeme ∈ words, lexeme.isWatched = false) :
    Gives words [] := by
  induction words with
  | nil => exact fun before after => rfl
  | cons lexeme words ih =>
    rw [List.forall_mem_cons] at h
    intro before after
    rw [List.cons_append, scan, h.1, ih h.2, List.reverse_cons, List.append_assoc]
    rfl

end Scanning

section Shows

variable {text rest : List Char} {found others : List Mark}

/-- A part of the code gives these marks, whatever stands around it. -/
def Shows (text : List Char) (found : List Mark) : Prop :=
  ∃ words, run [] text = (words, []) ∧ Gives words found

theorem Shows.nil : Shows [] [] := ⟨[], rfl, fun _ _ => rfl⟩

theorem Shows.append (h : Shows text found) (h' : Shows rest others) :
    Shows (text ++ rest) (found ++ others) := by
  obtain ⟨words, hrun, hgives⟩ := h
  obtain ⟨more, hmore, hothers⟩ := h'
  refine ⟨words ++ more, ?_, hgives.append hothers⟩
  rw [run_append, hrun, hmore]

theorem Shows.marks (h : Shows text found) : marks text = found := by
  obtain ⟨words, hrun, hgives⟩ := h
  have hscan := hgives [] []
  rw [List.append_nil, scan, List.append_nil] at hscan
  have hlast : flush [] = [] := rfl
  rw [Marks.marks, lexemes, hrun, hlast, List.append_nil, hscan]

end Shows

end Storyboard.Marks
