import Storyboard.Proofs.Rejections

/-!
# Arguments sent as text

A list or an object and a text that is read as it are the same argument. A text that is read as
something else, or not at all, stays a text, but for two kinds that make the coercion fail: a number
with more digits than are read, and lists and objects in each other for which there is no room,
however much room there is. The readers are followed for this by one account of where each of them may end.
-/

namespace Storyboard.Json

open Storyboard.Decimal (maxDigits)

variable {α β : Type} {room : Nat} {text rest : List Char}

/-- A run of so many digits stands in a text. -/
def HasRun (count : Nat) (text : List Char) : Prop :=
  ∃ digits, digits <:+: text ∧ (∀ c ∈ digits, c.isDigit = true) ∧ digits.length = count

def isOpening (c : Char) : Bool := c == '[' || c == '{'

/-- How many lists and objects a text could open. -/
def openings (text : List Char) : Nat := text.countP isOpening

/-- What a reader that starts at a text with room for `room` lists and objects may come to: it goes on
further behind, it finds a flaw, or there is a reason in the text why it reads no further. -/
inductive Accounted (room : Nat) (text : List Char) : Except Stop (α × List Char) → Prop
  | goes {value : α} {rest : List Char} (h : rest <:+ text) :
      Accounted room text (.ok (value, rest))
  | flaw (flaw : Flaw) (left : Nat) : Accounted room text (.error (.flaw flaw left))
  | number {count : Nat} (hlong : maxDigits < count) (h : HasRun count text) :
      Accounted room text (.error (.number (.tooManyDigits count)))
  | deep {shape : Shape} (h : room < openings text) :
      Accounted room text (.error (.tooDeep shape))

section Accounts

variable {reading : Except Stop (α × List Char)}

theorem HasRun.later {count : Nat} (h : HasRun count rest) (hs : rest <:+ text) :
    HasRun count text := by
  obtain ⟨digits, hin, hdigits⟩ := h
  exact ⟨digits, hin.trans hs.isInfix, hdigits⟩

theorem openings_le (hs : rest <:+ text) : openings rest ≤ openings text :=
  hs.sublist.countP_le

/-- What holds further behind holds here, if what is opened in between takes the room in
between. -/
theorem Accounted.before {inner : Nat} (h : Accounted inner rest reading) (hs : rest <:+ text)
    (hcount : room + openings rest ≤ inner + openings text) : Accounted room text reading := by
  cases h with
  | goes h => exact .goes (h.trans hs)
  | flaw flaw left => exact .flaw flaw left
  | number hlong h => exact .number hlong (h.later hs)
  | deep h => exact .deep (by omega)

theorem Accounted.later (h : Accounted room rest reading) (hs : rest <:+ text) :
    Accounted room text reading :=
  h.before hs (Nat.add_le_add_left (openings_le hs) room)

theorem openings_cons {c : Char} (hc : isOpening c = true) (rest : List Char) :
    openings (c :: rest) = openings rest + 1 :=
  List.countP_cons_of_pos hc

/-- The character that opens a list or an object counts for the room that this takes. -/
theorem Accounted.outside {c : Char} (hc : isOpening c = true)
    (h : Accounted (room - 1) rest reading) : Accounted room (c :: rest) reading := by
  have hcount := openings_cons hc rest
  exact h.before (List.suffix_cons c rest) (by omega)

theorem Accounted.bind {next : α × List Char → Except Stop (β × List Char)}
    (h : Accounted room text reading)
    (hnext : ∀ value rest, rest <:+ text → Accounted room text (next (value, rest))) :
    Accounted room text (reading >>= next) := by
  cases h with
  | goes h => exact hnext _ _ h
  | flaw flaw left => exact .flaw flaw left
  | number hlong h => exact .number hlong h
  | deep h => exact .deep h

theorem Accounted.map {f : α × List Char → β × List Char} (h : Accounted room text reading)
    (hf : ∀ value rest, (f (value, rest)).2 = rest) : Accounted room text (reading.map f) := by
  cases h with
  | @goes value rest h =>
    have hrest : f (value, rest) = ((f (value, rest)).1, rest) := Prod.ext rfl (hf value rest)
    rw [Except.map, hrest]
    exact .goes h
  | flaw flaw left => exact .flaw flaw left
  | number hlong h => exact .number hlong h
  | deep h => exact .deep h

end Accounts

section Readers

theorem skipGap_suffix (text : List Char) : skipGap text <:+ text := List.dropWhile_suffix _

theorem accounted_addCode {code : Nat} {reading : Reading (List Nat)}
    (h : Accounted room text reading) : Accounted room text (addCode code reading) :=
  h.map fun _ _ => rfl

theorem accounted_readCodes (opened : Nat) (text : List Char) :
    Accounted room text (readCodes opened text) := by
  have hpair (letter : Char) (rest : List Char) : rest <:+ '\\' :: letter :: rest :=
    List.suffix_append ['\\', letter] rest
  fun_induction readCodes opened text with
  | case1 => exact .flaw _ _
  | case2 rest => exact .goes (List.suffix_cons _ _)
  | case3 => exact .flaw _ _
  | case4 a b c d rest unit hunit ih =>
    exact accounted_addCode (ih.later (List.suffix_append ['\\', 'u', a, b, c, d] rest))
  | case5 => exact .flaw _ _
  | case6 => exact .flaw _ _
  | case7 letter rest _ _ c hc ih => exact accounted_addCode (ih.later (hpair letter rest))
  | case8 => exact .flaw _ _
  | case9 => exact .flaw _ _
  | case10 c rest _ _ _ _ _ _ ih => exact accounted_addCode (ih.later (List.suffix_cons c rest))

theorem accounted_readText (text : List Char) : Accounted room text (readText text) :=
  (accounted_readCodes _ text).map fun _ _ => rfl

theorem wholeDigits_isPrefix (text : List Char) : wholeDigits text <+: text := by
  unfold wholeDigits
  split
  · exact List.prefix_append ['0'] _
  · exact List.takeWhile_prefix _

/-- Only a run of digits is a long number. -/
theorem hasRun_wholeDigits (text : List Char) : HasRun (wholeDigits text).length text := by
  refine ⟨wholeDigits text, (wholeDigits_isPrefix text).isInfix, ?_, rfl⟩
  unfold wholeDigits
  split
  · intro c hc
    rw [List.mem_singleton.mp hc]
    rfl
  · exact List.all_eq_true.mp List.all_takeWhile

theorem accounted_readSize (negative : Bool) (start : List Char) {text : List Char} :
    Accounted room text (readSize negative start text) := by
  unfold readSize
  dsimp only
  split
  · exact .flaw _ _
  have hwhole := List.drop_suffix (wholeDigits text).length text
  have hfraction (count : Nat) :=
    (List.drop_suffix count (text.drop (wholeDigits text).length)).trans hwhole
  split
  · exact .goes ((List.drop_suffix _ _).trans (hfraction _))
  · split
    · exact .goes (hfraction _)
    · split
      · rename_i hlong
        exact .number hlong (hasRun_wholeDigits text)
      · exact .goes hwhole

theorem accounted_readNumber (text : List Char) : Accounted room text (readNumber text) := by
  unfold readNumber
  split
  · exact (accounted_readSize true _).later (List.suffix_cons _ _)
  · exact accounted_readSize false text

theorem namedAt?_suffix {named : Json × List Char} (h : namedAt? text = some named) :
    named.2 <:+ text := by
  obtain ⟨found, _, rfl⟩ := Option.map_eq_some_iff.mp h
  exact List.drop_suffix _ _

theorem checkNesting_bind {shape : Shape} {c : Char} (hc : isOpening c = true)
    {reading : Except Stop (α × List Char)} (h : Accounted (room - 1) rest reading) :
    Accounted room (c :: rest) (checkNesting shape room >>= fun _ => reading) := by
  unfold checkNesting
  by_cases hfull : room = 0
  · rw [if_pos hfull]
    have hcount := openings_cons hc rest
    exact .deep (by omega)
  · rw [if_neg hfull]
    exact h.outside hc

/-- What the readers of values, of items and of pairs come to with the same count of steps. -/
structure AccountedTo (depth : Nat) : Prop where
  value (room : Nat) (text : List Char) : Accounted room text (readValue depth room text)
  items (room : Nat) (text : List Char) : Accounted (room - 1) text (readItems depth room text)
  pairs (room : Nat) (text : List Char) : Accounted (room - 1) text (readPairs depth room text)

theorem accounted_readValue_succ {depth : Nat} (ih : AccountedTo depth) (room : Nat)
    (text : List Char) : Accounted room text (readValue (depth + 1) room text) := by
  unfold readValue
  split
  · exact ((accounted_readText _).map fun _ _ => rfl).later (List.suffix_cons _ _)
  · rename_i rest
    refine checkNesting_bind (by decide) ?_
    split
    · rename_i hclosed
      exact .goes ((List.suffix_cons _ _).trans (hclosed ▸ skipGap_suffix rest))
    · exact ((ih.items room _).map fun _ _ => rfl).later (skipGap_suffix rest)
  · rename_i rest
    refine checkNesting_bind (by decide) ?_
    split
    · rename_i hclosed
      exact .goes ((List.suffix_cons _ _).trans (hclosed ▸ skipGap_suffix rest))
    · exact ((ih.pairs room _).map fun _ _ => rfl).later (skipGap_suffix rest)
  · split
    · rename_i hnamed
      exact .goes (namedAt?_suffix hnamed)
    · exact accounted_readNumber _

theorem accounted_readItems_succ {depth : Nat} (ih : AccountedTo depth) (room : Nat)
    (text : List Char) : Accounted (room - 1) text (readItems (depth + 1) room text) := by
  unfold readItems
  refine (ih.value (room - 1) text).bind fun item rest hrest => ?_
  dsimp only
  have hgap := (skipGap_suffix rest).trans hrest
  split
  · rename_i hclosed
    exact .goes ((List.suffix_cons _ _).trans (hclosed ▸ hgap))
  · rename_i after hcomma
    have hafter : skipGap after <:+ text :=
      (skipGap_suffix after).trans ((List.suffix_cons _ _).trans (hcomma ▸ hgap))
    exact ((ih.items room _).later hafter).bind fun items rest hrest => .goes hrest
  · exact .flaw _ _

theorem accounted_readPairs_succ {depth : Nat} (ih : AccountedTo depth) (room : Nat)
    (text : List Char) : Accounted (room - 1) text (readPairs (depth + 1) room text) := by
  unfold readPairs
  split
  · rename_i afterQuote
    have hkey : Accounted (room - 1) ('"' :: afterQuote) (readText afterQuote) :=
      (accounted_readText afterQuote).later (List.suffix_cons _ _)
    refine hkey.bind fun key rest hrest => ?_
    dsimp only
    split
    · rename_i afterColon hcolon
      have hvalue : skipGap afterColon <:+ '"' :: afterQuote := (skipGap_suffix afterColon).trans
        ((List.suffix_cons _ _).trans (hcolon ▸ (skipGap_suffix rest).trans hrest))
      refine ((ih.value (room - 1) _).later hvalue).bind fun value rest hrest => ?_
      dsimp only
      have hgap := (skipGap_suffix rest).trans hrest
      split
      · rename_i hclosed
        exact .goes ((List.suffix_cons _ _).trans (hclosed ▸ hgap))
      · rename_i after hcomma
        have hafter : skipGap after <:+ '"' :: afterQuote :=
          (skipGap_suffix after).trans ((List.suffix_cons _ _).trans (hcomma ▸ hgap))
        exact ((ih.pairs room _).later hafter).bind fun pairs rest hrest => .goes hrest
      · exact .flaw _ _
    · exact .flaw _ _
  · exact .flaw _ _

/-- The three readers call each other with one step less. -/
theorem accountedTo (depth : Nat) : AccountedTo depth := by
  induction depth with
  | zero => exact ⟨fun _ _ => .flaw _ _, fun _ _ => .flaw _ _, fun _ _ => .flaw _ _⟩
  | succ depth ih =>
    exact ⟨accounted_readValue_succ ih, accounted_readItems_succ ih, accounted_readPairs_succ ih⟩

end Readers

/-- Why a text is read neither as a value nor as a text with a flaw: a long number in it, or what it
opens. -/
inductive Beyond (room : Nat) (text : List Char) : ReadFault → Prop
  | number {count : Nat} (hlong : maxDigits < count) (h : HasRun count text) :
      Beyond room text (.number (.tooManyDigits count))
  | deep {shape : Shape} (h : room < openings text) : Beyond room text (.tooDeep shape)

theorem Accounted.fault {reading : Except Stop (α × List Char)} {stop : Stop}
    (h : Accounted room text reading) (hstop : reading = .error stop) (whole : List Char) :
    (∃ problem, stop.fault whole = .problem problem) ∨ Beyond room text (stop.fault whole) := by
  subst hstop
  cases h with
  | flaw flaw left => exact .inl ⟨_, rfl⟩
  | number hlong h => exact .inr (.number hlong h)
  | deep h => exact .inr (.deep h)

theorem readDocument_error {stop : Stop} (h : readDocument room text = .error stop) :
    (∃ problem, stop.fault text = .problem problem) ∨ Beyond room text (stop.fault text) := by
  rcases Results.bind_error_iff.mp h with h | ⟨⟨value, rest⟩, _, h⟩
  · exact (((accountedTo _).value room _).later (skipGap_suffix text)).fault h text
  · dsimp only at h
    split at h
    · cases h
    · cases h
      exact .inl ⟨_, rfl⟩

theorem read_error {source : String} {fault : ReadFault} (h : read room source = .error fault) :
    (∃ problem, fault = .problem problem) ∨ Beyond room source.toList fault := by
  rcases Results.bind_error_iff.mp h with h | ⟨_, _, h⟩
  · obtain ⟨stop, hstop, rfl⟩ := Results.mapError_error_iff.mp h
    unfold refuseMark at hstop
    split at hstop
    · cases hstop
      exact .inl ⟨_, rfl⟩
    · cases hstop
  · obtain ⟨stop, hstop, rfl⟩ := Results.mapError_error_iff.mp h
    exact readDocument_error hstop

section Failing

/-- A text that starts with a value. -/
def Starts (text : List Char) : Prop :=
  ∃ c ∈ text.head?, isGap c = false ∧ c ≠ ']' ∧ c ≠ '\uFEFF'

theorem Starts.opened (h : Starts text) (count : Nat) :
    Starts (List.replicate count '[' ++ text) := by
  cases count with
  | zero => exact h
  | succ count => exact ⟨'[', rfl, by decide⟩

theorem readItems_error {depth : Nat} {stop : Stop}
    (h : readValue depth (room - 1) text = .error stop) :
    readItems (depth + 1) room text = .error stop := by
  rw [readItems, h]
  rfl

theorem readValue_list {depth : Nat} {stop : Stop} (hstarts : Starts text)
    (hroom : room ≠ 0) (h : readItems depth room text = .error stop) :
    readValue (depth + 1) room ('[' :: text) = .error stop := by
  obtain ⟨c, hc, hgap, hclosed, _⟩ := hstarts
  obtain ⟨rest, rfl⟩ := List.head?_eq_some_iff.mp hc
  have hskip : skipGap (c :: rest) = c :: rest := List.dropWhile_cons_of_neg (by simp [hgap])
  rw [readValue, checkNesting, if_neg hroom, hskip]
  simp [h, Except.map, hclosed, bind, Except.bind]

/-- Lists that are opened around a text hand on where it makes the reading stop. -/
theorem readValue_opened {stop : Stop} (hstarts : Starts text) (count depth : Nat)
    (h : ∀ depth, readValue (depth + 1) room text = .error stop) :
    readValue (2 * count + depth + 1) (room + count) (List.replicate count '[' ++ text) =
      .error stop := by
  induction count with
  | zero => exact h _
  | succ count ih =>
    have hdepth : 2 * (count + 1) + depth = 2 * count + depth + 1 + 1 := by omega
    have hitems : readItems (2 * (count + 1) + depth) (room + (count + 1))
        (List.replicate count '[' ++ text) = .error stop := by
      rw [hdepth]
      exact readItems_error ih
    exact readValue_list (hstarts.opened count) (by omega) hitems

theorem read_opened {stop : Stop} (hstarts : Starts text) (count : Nat)
    (h : ∀ depth, readValue (depth + 1) room text = .error stop) :
    read (room + count) (String.ofList (List.replicate count '[' ++ text)) =
      .error (stop.fault (List.replicate count '[' ++ text)) := by
  obtain ⟨c, hc, hgap, _, hmark⟩ := hstarts.opened count
  obtain ⟨rest, hrest⟩ := List.head?_eq_some_iff.mp hc
  have hskip : skipGap (List.replicate count '[' ++ text) = List.replicate count '[' ++ text := by
    rw [hrest]
    exact List.dropWhile_cons_of_neg (by simp [hgap])
  have hsteps : 2 * (List.replicate count '[' ++ text).length + 2 =
      2 * count + (2 * text.length + 1) + 1 := by
    rw [List.length_append, List.length_replicate]
    omega
  have hvalue := readValue_opened hstarts count (2 * text.length + 1) h
  have hdocument : readDocument (room + count) (List.replicate count '[' ++ text) = .error stop := by
    rw [readDocument, hskip, hsteps, hvalue]
    rfl
  have hhead : refuseMark (List.replicate count '[' ++ text) = .ok () := by
    rw [refuseMark, hc, if_neg (by simpa using hmark)]
  rw [read, readDecoded, String.toList_ofList, hhead, hdocument]
  rfl

/-- A whole number of more digits than are read, and what follows it. -/
structure LongNumber (digits rest : List Char) : Prop where
  all : ∀ c ∈ digits, c.isDigit = true
  nonzero : digits.head? ≠ some '0'
  long : maxDigits < digits.length
  whole : ∀ c ∈ rest.head?, c.isDigit = false ∧ c ≠ '.' ∧ c ≠ 'e' ∧ c ≠ 'E'

variable {digits : List Char}

theorem LongNumber.head (h : LongNumber digits rest) :
    ∃ c tail, digits = c :: tail ∧ c.isDigit = true ∧ c ≠ '0' := by
  cases hdigits : digits with
  | nil =>
    have hlong := h.long
    simp [hdigits] at hlong
  | cons c tail =>
    refine ⟨c, tail, rfl, h.all c (hdigits ▸ List.mem_cons_self), ?_⟩
    rintro rfl
    exact h.nonzero (by rw [hdigits]; rfl)

theorem LongNumber.wholeDigits (h : LongNumber digits rest) :
    wholeDigits (digits ++ rest) = digits := by
  obtain ⟨c, tail, hdigits, _, hzero⟩ := h.head
  have hrest : rest.takeWhile Char.isDigit = [] := by
    cases hr : rest with
    | nil => rfl
    | cons d rest => rw [List.takeWhile_cons_of_neg (by simp [(h.whole d (by rw [hr]; rfl)).1])]
  have hrun : (digits ++ rest).takeWhile Char.isDigit = digits := by
    rw [List.takeWhile_append_of_pos h.all, hrest, List.append_nil]
  rw [Json.wholeDigits.eq_2 _ (by simp [hdigits, hzero]), hrun]

/-- A digit is none of the characters that make other values than numbers. -/
theorem ne_of_isDigit {c d : Char} (h : c.isDigit = true) (hd : d.isDigit = false) : c ≠ d := by
  rintro rfl
  rw [h] at hd
  cases hd

theorem LongNumber.starts (h : LongNumber digits rest) : Starts (digits ++ rest) := by
  obtain ⟨c, tail, rfl, hc, _⟩ := h.head
  have hgap : isGap c = false := by
    simp [isGap, ne_of_isDigit hc]
  exact ⟨c, rfl, hgap, ne_of_isDigit hc rfl, ne_of_isDigit hc rfl⟩

theorem LongNumber.readSize (h : LongNumber digits rest) (start : List Char) :
    readSize false start (digits ++ rest) = .error (.number (.tooManyDigits digits.length)) := by
  have hfilled : ¬ digits.isEmpty = true := by
    obtain ⟨c, tail, rfl, _⟩ := h.head
    simp
  have hfraction : fractionDigits rest = [] := by
    cases hr : rest with
    | nil => rfl
    | cons d rest => exact fractionDigits.eq_2 _ (by simp [(h.whole d (by rw [hr]; rfl)).2])
  have hexponent : exponentAt? rest = none := by
    cases hr : rest with
    | nil => rfl
    | cons d rest =>
      have hd := h.whole d (by rw [hr]; rfl)
      simp [exponentAt?, hd]
  unfold Json.readSize
  simp only [h.wholeDigits, if_neg hfilled, List.drop_left, hfraction, List.isEmpty_nil,
    List.drop_zero, hexponent, if_pos h.long, if_true, Bool.not_true, if_false, reduceCtorEq]

theorem LongNumber.readValue (h : LongNumber digits rest) (depth : Nat) :
    readValue (depth + 1) room (digits ++ rest) =
      .error (.number (.tooManyDigits digits.length)) := by
  obtain ⟨c, tail, hdigits, hc, _⟩ := h.head
  have hne {d : Char} (hd : d.isDigit = false) : d ≠ c := (ne_of_isDigit hc hd).symm
  have hnamed : namedAt? (digits ++ rest) = none := by
    simp [namedAt?, namedValues, hdigits, hne]
  have hsize := h.readSize (digits ++ rest)
  rw [hdigits] at hnamed hsize ⊢
  rw [List.cons_append] at hnamed hsize ⊢
  rw [Json.readValue.eq_5 _ _ _ (by simp [ne_of_isDigit hc]) (by simp [ne_of_isDigit hc])
    (by simp [ne_of_isDigit hc]), hnamed]
  dsimp only
  rw [readNumber.eq_2 _ (by simp [ne_of_isDigit hc]), hsize]

theorem LongNumber.read (h : LongNumber digits rest) {count : Nat} (hcount : count ≤ room) :
    read room (String.ofList (List.replicate count '[' ++ (digits ++ rest))) =
      .error (.number (.tooManyDigits digits.length)) := by
  obtain ⟨left, rfl⟩ := Nat.exists_eq_add_of_le hcount
  rw [Nat.add_comm]
  exact read_opened h.starts count fun depth => h.readValue depth

theorem read_deep (room : Nat) (rest : List Char) :
    read room (String.ofList (List.replicate (room + 1) '[' ++ rest)) = .error (.tooDeep .list) := by
  have hstarts : Starts ('[' :: rest) := ⟨'[', rfl, by decide⟩
  have hfull : ∀ depth, readValue (depth + 1) 0 ('[' :: rest) = .error (.tooDeep .list) := by
    intro depth
    rw [Json.readValue, checkNesting, if_pos rfl]
    rfl
  have h := read_opened hstarts room hfull
  rw [Nat.zero_add] at h
  rw [List.replicate_succ', List.append_assoc]
  exact h

end Failing

/-- The argument that a text comes to: the value it is read as, if this has the shape, and else the
text. -/
def argumentOf (room : Nat) (shape : Shape) (source : String) : Json :=
  match read room source with
  | .ok value => if hasShape shape value then value else .text source
  | .error _ => .text source

/-- What the coercion to a shape does with this room. -/
structure Coerces (room : Nat) (shape : Shape) : Prop where
  kept (argument : Json) (h : ∀ source, argument ≠ .text source) :
    coerce room shape argument = .ok argument
  text (source : String) : coerce room shape (.text source) = .ok (argumentOf room shape source) ∨
    ∃ fault, read room source = .error fault ∧ Beyond room source.toList fault ∧
      coerce room shape (.text source) = .error fault
  again (argument value : Json) (h : coerce room shape argument = .ok value) :
    coerce room shape value = .ok value
  long (count : Nat) (hcount : count ≤ room) (digits rest : List Char)
    (h : LongNumber digits rest) :
    coerce room shape (.text (String.ofList (List.replicate count '[' ++ (digits ++ rest)))) =
      .error (.number (.tooManyDigits digits.length))
  deep (rest : List Char) :
    coerce room shape (.text (String.ofList (List.replicate (room + 1) '[' ++ rest))) =
      .error (.tooDeep .list)

theorem coerce_eq_ok {shape : Shape} {source : String} {value : Json}
    (hread : read room source = .ok value) (hshape : hasShape shape value = true) :
    coerce room shape (.text source) = .ok value := by
  rw [coerce, hread]
  simp [hshape]

theorem coerce_value (room : Nat) {shape : Shape} {value : Json}
    (hshape : hasShape shape value = true) : coerce room shape value = .ok value := by
  apply coerce_of_not_text
  rintro source rfl
  cases shape <;> cases hshape

theorem coerce_text (room : Nat) (shape : Shape) (source : String) :
    coerce room shape (.text source) = .ok (argumentOf room shape source) ∨
      ∃ fault, read room source = .error fault ∧ Beyond room source.toList fault ∧
        coerce room shape (.text source) = .error fault := by
  cases hread : read room source with
  | ok value => exact .inl (by simp only [coerce, argumentOf, hread])
  | error fault =>
    rcases read_error hread with ⟨problem, rfl⟩ | hbeyond
    · exact .inl (by simp only [coerce, argumentOf, hread])
    · refine .inr ⟨fault, rfl, hbeyond, ?_⟩
      cases hbeyond with
      | number hlong h => simp only [coerce, hread]
      | deep h => simp only [coerce, hread]

theorem argumentOf_cases (room : Nat) (shape : Shape) (source : String) :
    hasShape shape (argumentOf room shape source) = true ∨
      argumentOf room shape source = .text source := by
  unfold argumentOf
  split
  · by_cases hshape : hasShape shape ‹Json› = true
    · exact .inl (by rwa [if_pos hshape])
    · exact .inr (if_neg hshape)
  · exact .inr rfl

theorem coerce_again {shape : Shape} {argument value : Json}
    (h : coerce room shape argument = .ok value) : coerce room shape value = .ok value := by
  by_cases htext : ∃ source, argument = .text source
  · obtain ⟨source, rfl⟩ := htext
    rcases coerce_text room shape source with hok | ⟨fault, _, _, herror⟩
    · obtain rfl := Except.ok.inj (hok.symm.trans h)
      rcases argumentOf_cases room shape source with hshape | hsame
      · exact coerce_value room hshape
      · rwa [hsame] at hok ⊢
    · rw [herror] at h
      cases h
  · rw [coerce_of_not_text room shape fun source hs => htext ⟨source, hs⟩] at h
    cases h
    exact coerce_of_not_text room shape fun source hs => htext ⟨source, hs⟩

theorem coerces (room : Nat) (shape : Shape) : Coerces room shape where
  kept _ h := coerce_of_not_text room shape h
  text := coerce_text room shape
  again _ _ := coerce_again
  long count hcount digits rest h := by rw [coerce, h.read hcount]
  deep rest := by rw [coerce, read_deep]

end Storyboard.Json

namespace Storyboard.Tool

open Json (Shape ReadFault hasShape)

variable {studio : Studio} {fault : ReadFault} {first second : Json}

theorem on_coerce_error {shape : Shape} {argument : Json}
    (h : Json.coerce studio.nesting shape argument = .error fault) :
    Action.on (coerce shape argument) studio = (.error (Failure.ofReading fault), studio) := by
  unfold coerce
  rw [Action.on_bind_ok Action.on_get, h]
  rfl

/-- A studio has coerced the two arguments to the same value. -/
def Agree (studio : Studio) (shape : Shape) (first second : Json) : Prop :=
  ∃ value, Json.coerce studio.nesting shape first = .ok value ∧
    Json.coerce studio.nesting shape second = .ok value

theorem on_saveScript_congr (h : Agree studio .object first second) :
    Action.on (saveScript first) studio = Action.on (saveScript second) studio := by
  obtain ⟨value, hfirst, hsecond⟩ := h
  refine on_answering_congr ?_
  rw [Action.on_bind_ok (on_coerce hfirst), Action.on_bind_ok (on_coerce hsecond)]

theorem on_request_narration_congr (arguments : GenerateArguments)
    (h : Agree studio .object first second) :
    Action.on { arguments with narration := first }.request studio =
      Action.on { arguments with narration := second }.request studio := by
  obtain ⟨value, hfirst, hsecond⟩ := h
  have hrevision : { arguments with narration := first }.revision =
      { arguments with narration := second }.revision := rfl
  unfold GenerateArguments.request
  dsimp only
  cases himages : Json.coerce studio.nesting .list arguments.imageUrls with
  | error fault =>
    rw [Action.on_bind_error (on_coerce_error himages),
      Action.on_bind_error (on_coerce_error himages)]
  | ok images =>
    rw [Action.on_bind_ok (on_coerce himages), Action.on_bind_ok (on_coerce himages),
      Action.on_bind_ok (on_coerce hfirst), Action.on_bind_ok (on_coerce hsecond), hrevision]

theorem on_request_images_congr (arguments : GenerateArguments)
    (h : Agree studio .list first second) :
    Action.on { arguments with imageUrls := first }.request studio =
      Action.on { arguments with imageUrls := second }.request studio := by
  obtain ⟨value, hfirst, hsecond⟩ := h
  have hrevision : { arguments with imageUrls := first }.revision =
      { arguments with imageUrls := second }.revision := rfl
  unfold GenerateArguments.request
  dsimp only
  rw [Action.on_bind_ok (on_coerce hfirst), Action.on_bind_ok (on_coerce hsecond), hrevision]

theorem on_generate_congr {arguments others : GenerateArguments}
    (h : Action.on arguments.request studio = Action.on others.request studio) :
    Action.on (generate arguments) studio = Action.on (generate others) studio :=
  on_answering_congr (Action.on_bind_congr h)

/-- For a studio these are two arguments for the same script, the same narration or the same
images. -/
structure Interchangeable (studio : Studio) (first second : Json) : Prop where
  script (h : hasShape .object second = true) :
    Action.on (saveScript first) studio = Action.on (saveScript second) studio
  narration (h : hasShape .object second = true) (arguments : GenerateArguments) :
    Action.on { arguments with narration := first }.request studio =
      Action.on { arguments with narration := second }.request studio ∧
    Action.on (generate { arguments with narration := first }) studio =
      Action.on (generate { arguments with narration := second }) studio
  images (h : hasShape .list second = true) (arguments : GenerateArguments) :
    Action.on { arguments with imageUrls := first }.request studio =
      Action.on { arguments with imageUrls := second }.request studio ∧
    Action.on (generate { arguments with imageUrls := first }) studio =
      Action.on (generate { arguments with imageUrls := second }) studio

theorem interchangeable {source : String} {value : Json}
    (hread : Json.read studio.nesting source = .ok value) :
    Interchangeable studio (.text source) value := by
  have hagree {shape : Shape} (h : hasShape shape value = true) :
      Agree studio shape (.text source) value :=
    ⟨value, Json.coerce_eq_ok hread h, Json.coerce_value _ h⟩
  refine ⟨fun h => on_saveScript_congr (hagree h), fun h arguments => ?_, fun h arguments => ?_⟩
  · have hrequest := on_request_narration_congr arguments (hagree h)
    exact ⟨hrequest, on_generate_congr hrequest⟩
  · have hrequest := on_request_images_congr arguments (hagree h)
    exact ⟨hrequest, on_generate_congr hrequest⟩

/-- The first of the two arguments that may come as text and cannot be brought into its shape. -/
inductive Unreadable (room : Nat) (arguments : GenerateArguments) (fault : ReadFault) : Prop
  | images (h : Json.coerce room .list arguments.imageUrls = .error fault)
  | narration {images : Json} (hi : Json.coerce room .list arguments.imageUrls = .ok images)
      (h : Json.coerce room .object arguments.narration = .error fault)

theorem on_request_of_unreadable {arguments : GenerateArguments}
    (h : Unreadable studio.nesting arguments fault) :
    Action.on arguments.request studio = (.error (Failure.ofReading fault), studio) := by
  unfold GenerateArguments.request
  cases h with
  | images h => exact Action.on_bind_error (on_coerce_error h)
  | narration hi h =>
    rw [Action.on_bind_ok (on_coerce hi)]
    exact Action.on_bind_error (on_coerce_error h)

/-- Lists and objects may come as text. What is read as a value of the shape that is asked for is
this value, for the tools as well, and every other argument is kept as it is. A text with a number
of too many digits, or with lists and objects in each other for which there is no room, is not kept:
the coercion fails on it, and the tools answer with a notice. All this holds however much room there
is. -/
theorem texts_serve_as_values (shape : Shape) (source : String) (value : Json) (studio : Studio)
    (fault : ReadFault) :
    Json.Coerces studio.nesting shape ∧
    (Json.read studio.nesting source = .ok value → Interchangeable studio (.text source) value) ∧
    (∀ script, Json.coerce studio.nesting .object script = .error fault →
      Action.on (saveScript script) studio = (.ok (Failure.ofReading fault).notice.body, studio)) ∧
    ∀ arguments, Unreadable studio.nesting arguments fault →
      Action.on (generate arguments) studio =
        (.ok (Failure.ofReading fault).notice.body, studio) := by
  refine ⟨Json.coerces _ shape, interchangeable, fun script h => ?_, fun arguments h => ?_⟩
  · exact on_answering_error (Action.on_bind_error (on_coerce_error h))
  · exact on_generate_of_request_error (on_request_of_unreadable h)

/-- With room for two lists and objects in each other, the text of an object is kept as the script
that the object is; a text of sevens beyond the count that is read is answered with a notice. -/
theorem sceneless_text_serves_as_value :
    Json.read Sample.idle.nesting "\x7b\"scenes\": []\x7d" =
        .ok (.object [("scenes", .list [])]) ∧
    Action.on (saveScript (.text "\x7b\"scenes\": []\x7d")) Sample.idle =
      Action.on (saveScript (.object [("scenes", .list [])])) Sample.idle ∧
    Action.on (saveScript (.text (String.ofList (List.replicate 4301 '7')))) Sample.idle =
      (.ok (Failure.ofReading (.number (.tooManyDigits 4301))).notice.body, Sample.idle) := by
  have hlist : "\x7b\"scenes\": []\x7d".toList =
      ['\x7b', '"', 's', 'c', 'e', 'n', 'e', 's', '"', ':', ' ', '[', ']', '\x7d'] := rfl
  have hread : Json.read Sample.idle.nesting "\x7b\"scenes\": []\x7d" =
      .ok (.object [("scenes", .list [])]) := by
    rw [Json.read, Json.readDecoded, hlist]
    rfl
  have hsevens : Json.LongNumber (List.replicate 4301 '7') [] := by
    refine ⟨fun c hc => ?_, by decide, ?_, by simp⟩
    · rw [List.eq_of_mem_replicate hc]
      rfl
    · rw [List.length_replicate]
      decide
  obtain ⟨hcoerces, hvalue, hfails, _⟩ := texts_serve_as_values .object
    "\x7b\"scenes\": []\x7d" (.object [("scenes", .list [])]) Sample.idle
    (.number (.tooManyDigits 4301))
  have hlong := hcoerces.long 0 (Nat.zero_le _) _ _ hsevens
  rw [List.length_replicate, List.append_nil] at hlong
  exact ⟨hread, (hvalue hread).script rfl, hfails _ hlong⟩

end Storyboard.Tool
