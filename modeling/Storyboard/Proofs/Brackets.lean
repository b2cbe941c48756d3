import Storyboard.Proofs.Layers
import Storyboard.Proofs.Nesting

/-!
# What is reported on brackets

The balance of a pair after so many characters is its openers less its closers among them. The
first place at which the balance falls below zero is reported with its line, otherwise what is
left at the end. The scan is compared with this from any depth and any line that a text may begin
at. Each step of it moves the first character from the text into the depth and the line.
-/

namespace Storyboard.Review

namespace BracketPair

variable {pair : BracketPair} {depth line place count : Nat} {c : Char} {text rest : List Char}

/-- Openers less closers among the first `count` characters. -/
def balance (pair : BracketPair) (text : List Char) (count : Nat) : Int :=
  (text.take count).count pair.opener - (text.take count).count pair.closer

def weight (pair : BracketPair) (c : Char) : Int :=
  if c = pair.opener then 1 else if c = pair.closer then -1 else 0

/-- With `depth` brackets open before the text, the character at `place` is the first to bring the
balance below zero. -/
structure FallsAt (pair : BracketPair) (depth : Nat) (text : List Char) (place : Nat) : Prop where
  inside : place < text.length
  below : depth + pair.balance text (place + 1) < 0
  first : ∀ count ≤ place, 0 ≤ depth + pair.balance text count

def Stays (pair : BracketPair) (depth : Nat) (text : List Char) : Prop :=
  ∀ count, 0 ≤ depth + pair.balance text count

/-- What is wrong with a pair in a text that begins on line `line` with `depth` brackets open. -/
inductive Finds (pair : BracketPair) (depth line : Nat) (text : List Char) :
    Option BracketFault → Prop
  | unmatched {place : Nat} (h : pair.FallsAt depth text place) :
      Finds pair depth line text (some (.unmatched (line + (text.take place).count '\n')))
  | unclosed {surplus : Nat} (h : pair.Stays depth text) (hs : 0 < surplus)
      (he : depth + pair.balance text text.length = surplus) :
      Finds pair depth line text (some (.unclosed surplus))
  | matched (h : pair.Stays depth text) (he : depth + pair.balance text text.length = 0) :
      Finds pair depth line text none

@[simp]
theorem balance_zero (pair : BracketPair) (text : List Char) : pair.balance text 0 = 0 := by
  simp [balance]

theorem balance_cons (hpair : pair.closer ≠ pair.opener) (c : Char) (rest : List Char)
    (count : Nat) :
    pair.balance (c :: rest) (count + 1) = pair.weight c + pair.balance rest count := by
  unfold balance weight
  rw [List.take_succ_cons]
  by_cases ho : c = pair.opener
  · subst ho
    rw [List.count_cons_self, List.count_cons_of_ne hpair.symm, if_pos rfl]
    omega
  by_cases hc : c = pair.closer
  · subst hc
    rw [List.count_cons_self, List.count_cons_of_ne hpair, if_neg hpair, if_pos rfl]
    omega
  · rw [List.count_cons_of_ne ho, List.count_cons_of_ne hc, if_neg ho, if_neg hc]
    omega

theorem stays_cons (hpair : pair.closer ≠ pair.opener) {deep : Nat}
    (hdepth : (deep : Int) = depth + pair.weight c) (h : pair.Stays deep rest) :
    pair.Stays depth (c :: rest) := by
  intro count
  cases count with
  | zero =>
    rw [balance_zero]
    omega
  | succ count =>
    have hrest := h count
    rw [balance_cons hpair]
    omega

/-- What is found in the rest of a text is found in the text. -/
theorem Finds.cons (hpair : pair.closer ≠ pair.opener) {deep : Nat} {found : Option BracketFault}
    (hdepth : (deep : Int) = depth + pair.weight c)
    (h : pair.Finds deep (line + if c = '\n' then 1 else 0) rest found) :
    pair.Finds depth line (c :: rest) found := by
  cases h with
  | @unmatched place h =>
    have hbelow := h.below
    have hfalls : pair.FallsAt depth (c :: rest) (place + 1) := by
      refine ⟨by simpa using h.inside, ?_, fun count hcount => ?_⟩
      · rw [balance_cons hpair]
        omega
      · cases count with
        | zero =>
          rw [balance_zero]
          omega
        | succ count =>
          have hfirst := h.first count (by omega)
          rw [balance_cons hpair]
          omega
    have hline : line + (if c = '\n' then 1 else 0) + (rest.take place).count '\n' =
        line + ((c :: rest).take (place + 1)).count '\n' := by
      rw [List.take_succ_cons, List.count_cons]
      by_cases hc : c = '\n'
      · simp only [hc, if_true, beq_self_eq_true]
        omega
      · simp [hc]
    rw [hline]
    exact .unmatched hfalls
  | @unclosed surplus h hs he =>
    refine .unclosed (stays_cons hpair hdepth h) hs ?_
    rw [List.length_cons, balance_cons hpair]
    omega
  | matched h he =>
    refine .matched (stays_cons hpair hdepth h) ?_
    rw [List.length_cons, balance_cons hpair]
    omega

theorem finds_scan (hpair : pair.closer ≠ pair.opener) (ho : pair.opener ≠ '\n')
    (hc : pair.closer ≠ '\n') (depth line : Nat) (text : List Char) :
    pair.Finds depth line text (pair.scan depth line text) := by
  induction text generalizing depth line with
  | nil =>
    have hstays : pair.Stays depth [] := by
      intro count
      simp [balance]
    rw [scan]
    by_cases hd : depth = 0
    · rw [if_pos hd]
      exact .matched hstays (by simp [hd])
    · rw [if_neg hd]
      exact .unclosed hstays (Nat.pos_of_ne_zero hd) (by simp)
  | cons c rest ih =>
    unfold scan
    by_cases hopen : c = pair.opener
    · rw [if_pos hopen]
      have hrest : pair.Finds (depth + 1) (line + if c = '\n' then 1 else 0) rest
          (pair.scan (depth + 1) line rest) := by
        rw [hopen, if_neg ho]
        exact ih (depth + 1) line
      refine hrest.cons hpair ?_
      rw [weight, if_pos hopen]
      omega
    rw [if_neg hopen]
    by_cases hclose : c = pair.closer
    · rw [if_pos hclose]
      have hweight : pair.weight c = -1 := by rw [weight, if_neg hopen, if_pos hclose]
      cases depth with
      | zero =>
        -- The first character is the closing bracket without an opening one.
        have hfalls : pair.FallsAt 0 (c :: rest) 0 := by
          refine ⟨Nat.zero_lt_succ _, ?_, fun count hcount => ?_⟩
          · rw [balance_cons hpair, balance_zero, hweight]
            omega
          · obtain rfl := Nat.le_zero.mp hcount
            simp
        exact .unmatched hfalls
      | succ depth =>
        have hrest : pair.Finds depth (line + if c = '\n' then 1 else 0) rest
            (pair.scan depth line rest) := by
          rw [hclose, if_neg hc]
          exact ih depth line
        refine hrest.cons hpair ?_
        rw [hweight]
        omega
    · rw [if_neg hclose]
      have hline : (if c = '\n' then line + 1 else line) =
          line + if c = '\n' then 1 else 0 := by split <;> rfl
      rw [hline]
      refine (ih depth _).cons hpair ?_
      rw [weight, if_neg hopen, if_neg hclose]
      omega

theorem FallsAt.unique {other : Nat} (h : pair.FallsAt depth text place)
    (h' : pair.FallsAt depth text other) : place = other := by
  have hbelow := h.below
  have hbelow' := h'.below
  rcases Nat.lt_trichotomy place other with hlt | heq | hlt
  · have hfirst := h'.first (place + 1) hlt
    omega
  · exact heq
  · have hfirst := h.first (other + 1) hlt
    omega

theorem FallsAt.not_stays (h : pair.FallsAt depth text place) : ¬ pair.Stays depth text := by
  intro hstays
  have hbelow := h.below
  have hcount := hstays (place + 1)
  omega

/-- A text has one finding. -/
theorem Finds.unique {one other : Option BracketFault} (h : pair.Finds depth line text one)
    (h' : pair.Finds depth line text other) : one = other := by
  cases h with
  | unmatched hfalls =>
    cases h' with
    | unmatched hfalls' => rw [hfalls.unique hfalls']
    | unclosed hstays => exact absurd hstays hfalls.not_stays
    | matched hstays => exact absurd hstays hfalls.not_stays
  | @unclosed surplus hstays hs he =>
    cases h' with
    | unmatched hfalls => exact absurd hstays hfalls.not_stays
    | unclosed _ _ he' =>
      rw [he] at he'
      rw [Int.ofNat_inj.mp he']
    | matched _ he' => omega
  | matched hstays he =>
    cases h' with
    | unmatched hfalls => exact absurd hstays hfalls.not_stays
    | unclosed _ hs he' => omega
    | matched => rfl

def counts (pair : BracketPair) (c : Char) : Bool :=
  c = pair.opener || c = pair.closer || c = '\n'

/-- The brackets of a pair and the line ends of a text. -/
def projection (pair : BracketPair) (text : List Char) : List Char := text.filter pair.counts

theorem scan_cons_congr {other : List Char}
    (h : ∀ depth line, pair.scan depth line rest = pair.scan depth line other) (depth line : Nat)
    (c : Char) : pair.scan depth line (c :: rest) = pair.scan depth line (c :: other) := by
  unfold scan
  by_cases ho : c = pair.opener
  · rw [if_pos ho, if_pos ho, h]
  rw [if_neg ho, if_neg ho]
  by_cases hc : c = pair.closer
  · rw [if_pos hc, if_pos hc]
    cases depth with
    | zero => rfl
    | succ depth => exact h depth line
  · rw [if_neg hc, if_neg hc, h]

theorem scan_projection (pair : BracketPair) (depth line : Nat) (text : List Char) :
    pair.scan depth line (pair.projection text) = pair.scan depth line text := by
  induction text generalizing depth line with
  | nil => rfl
  | cons c rest ih =>
    unfold projection at ih ⊢
    by_cases hkept : pair.counts c = true
    · rw [List.filter_cons_of_pos hkept]
      exact scan_cons_congr ih depth line c
    · rw [List.filter_cons_of_neg hkept, ih]
      simp only [counts, Bool.or_eq_true, decide_eq_true_eq, not_or] at hkept
      obtain ⟨⟨ho, hc⟩, hn⟩ := hkept
      simp only [scan, ho, hc, hn, if_false]

theorem finds_iff (hp : pair ∈ bracketPairs) {found : Option BracketFault} :
    pair.Finds 0 1 text found ↔ pair.fault? text = found := by
  have hplain : ∀ pair ∈ bracketPairs, pair.opener ≠ '\n' ∧ pair.closer ≠ '\n' := by decide
  have hscan : pair.Finds 0 1 text (pair.fault? text) :=
    finds_scan (opener_ne_closer pair hp) (hplain pair hp).1 (hplain pair hp).2 0 1 text
  constructor
  · intro h
    exact hscan.unique h
  · rintro rfl
    exact hscan

end BracketPair

section Reports

variable {pair other : BracketPair} {fault flaw : BracketFault} {code : List Char} {issue : String}

theorem toString_injective {n m : Nat} (h : toString n = toString m) : n = m := by
  have hdigits : Nat.toDigits 10 n = Nat.toDigits 10 m := by
    rw [← Nat.toList_repr, ← Nat.toList_repr]
    exact congrArg String.toList h
  calc
    n = Nat.ofDigitChars 10 (Nat.toDigits 10 n) 0 := Nat.ofDigitChars_ten_toDigits.symm
    _ = Nat.ofDigitChars 10 (Nat.toDigits 10 m) 0 := by rw [hdigits]
    _ = m := Nat.ofDigitChars_ten_toDigits

theorem describe_unmatched (pair : BracketPair) (line : Nat) :
    (pair.describe (.unmatched line)).toList = "Unmatched closing '".toList ++ pair.closer ::
      ("' on line ".toList ++ ((toString line).toList ++ (" (" ++ pair.name ++ ")").toList)) := by
  have hdescribe : pair.describe (.unmatched line) = "Unmatched closing '" ++
      String.singleton pair.closer ++ "' on line " ++ toString line ++ " (" ++ pair.name ++ ")" :=
    rfl
  rw [hdescribe]
  simp only [String.toList_append, List.append_assoc, String.toList_singleton, List.cons_append,
    List.nil_append]

theorem describe_unclosed (pair : BracketPair) (surplus : Nat) :
    (pair.describe (.unclosed surplus)).toList = "Unbalanced ".toList ++
      (pair.name.toList ++ (", off by ".toList ++ (toString surplus).toList)) := by
  have hdescribe : pair.describe (.unclosed surplus) =
      "Unbalanced " ++ pair.name ++ ", off by " ++ toString surplus := rfl
  rw [hdescribe]
  simp only [String.toList_append, List.append_assoc]

theorem describe_unmatched_ne (pair other : BracketPair) (line surplus : Nat) :
    pair.describe (.unmatched line) ≠ other.describe (.unclosed surplus) := by
  intro h
  have hthird : "Unmatched closing '".toList[2]? ≠ "Unbalanced ".toList[2]? := by decide
  have hletter := congrArg (fun issue => issue.toList[2]?) h
  rw [describe_unmatched, describe_unclosed, List.getElem?_append_left (by decide),
    List.getElem?_append_left (by decide)] at hletter
  exact hthird hletter

/-- A report tells its pair and its fault. -/
theorem describe_inj (hp : pair ∈ bracketPairs) (ho : other ∈ bracketPairs)
    (h : pair.describe fault = other.describe flaw) : pair = other ∧ fault = flaw := by
  have hlist := congrArg String.toList h
  have hcloser : ∀ pair ∈ bracketPairs, ∀ other ∈ bracketPairs,
      pair.closer = other.closer → pair = other := by decide
  have hname : ∀ pair ∈ bracketPairs, ∀ other ∈ bracketPairs,
      pair.name.toList[0]? = other.name.toList[0]? → pair = other := by decide
  have hfilled : ∀ pair ∈ bracketPairs, 0 < pair.name.toList.length := by decide
  cases fault with
  | unmatched line =>
    cases flaw with
    | unmatched line' =>
      rw [describe_unmatched, describe_unmatched] at hlist
      obtain ⟨hsame, htail⟩ := List.cons.inj (List.append_cancel_left hlist)
      obtain rfl := hcloser pair hp other ho hsame
      have hline := List.append_cancel_right (List.append_cancel_left htail)
      rw [toString_injective (String.toList_inj.mp hline)]
      exact ⟨rfl, rfl⟩
    | unclosed surplus => exact absurd h (describe_unmatched_ne pair other line surplus)
  | unclosed surplus =>
    cases flaw with
    | unmatched line => exact absurd h.symm (describe_unmatched_ne other pair line surplus)
    | unclosed surplus' =>
      rw [describe_unclosed, describe_unclosed] at hlist
      have htail := List.append_cancel_left hlist
      have hletter := congrArg (fun text => text[0]?) htail
      rw [List.getElem?_append_left (hfilled pair hp),
        List.getElem?_append_left (hfilled other ho)] at hletter
      obtain rfl := hname pair hp other ho hletter
      have hsurplus := List.append_cancel_left (List.append_cancel_left htail)
      rw [toString_injective (String.toList_inj.mp hsurplus)]
      exact ⟨rfl, rfl⟩

theorem head_describe (pair : BracketPair) (fault : BracketFault) :
    (pair.describe fault).toList.head? = some 'U' := by
  cases fault with
  | unmatched line =>
    rw [describe_unmatched]
    rfl
  | unclosed surplus =>
    rw [describe_unclosed]
    rfl

theorem mem_bracketIssues : issue ∈ bracketIssues code ↔
    ∃ pair ∈ bracketPairs, ∃ fault,
      pair.fault? code = some fault ∧ pair.describe fault = issue := by
  simp only [bracketIssues, List.mem_filterMap, Option.map_eq_some_iff]

theorem head_bracketIssues (h : issue ∈ bracketIssues code) : issue.toList.head? = some 'U' := by
  obtain ⟨pair, _, fault, _, rfl⟩ := mem_bracketIssues.mp h
  exact head_describe pair fault

theorem head_tagReport (opened : Nat) : (tagReport opened).toList.head? = some 'P' := by
  have hreport : tagReport opened = "Possible unclosed JSX tags (" ++ toString opened ++
      " opening tags, 0 closing tags)" := rfl
  rw [hreport, String.toList_append, String.toList_append, List.append_assoc]
  rfl

theorem head_tagIssues (h : issue ∈ tagIssues code) : issue.toList.head? = some 'P' := by
  unfold tagIssues at h
  dsimp only at h
  split at h
  · obtain rfl := List.mem_singleton.mp h
    exact head_tagReport _
  · cases h

theorem head_lengthIssues (h : issue ∈ lengthIssues code) : issue.toList.head? = some 'C' := by
  have hreport (length : Nat) : s!"Code is suspiciously short ({length} chars)" =
      "Code is suspiciously short (" ++ toString length ++ " chars)" := rfl
  unfold lengthIssues at h
  dsimp only at h
  split at h
  · obtain rfl := List.mem_singleton.mp h
    rw [hreport, String.toList_append, String.toList_append, List.append_assoc]
    rfl
  · cases h

theorem writing_issues (code : String) : (Layer.writing.review code).issues =
    bracketIssues code.toList ++ (tagIssues code.toList ++ lengthIssues code.toList) :=
  List.append_assoc _ _ _

/-- Only what is reported on brackets reads like it. -/
theorem describe_notMem (pair : BracketPair) (fault : BracketFault) (code : List Char) :
    pair.describe fault ∉ tagIssues code ++ lengthIssues code := by
  intro h
  have hhead := head_describe pair fault
  rcases List.mem_append.mp h with h | h
  · rw [head_tagIssues h] at hhead
    cases hhead
  · rw [head_lengthIssues h] at hhead
    cases hhead

theorem describe_mem_iff (hp : pair ∈ bracketPairs) (fault : BracketFault) (code : String) :
    pair.describe fault ∈ (Layer.writing.review code).issues ↔
      pair.fault? code.toList = some fault := by
  rw [writing_issues, List.mem_append, mem_bracketIssues]
  constructor
  · rintro (⟨other, ho, flaw, hfault, hsame⟩ | h)
    · obtain ⟨rfl, rfl⟩ := describe_inj ho hp hsame
      exact hfault
    · exact absurd h (describe_notMem pair fault _)
  · intro hfault
    exact .inl ⟨pair, hp, fault, hfault, rfl⟩

end Reports

section Nested

/-- Texts in which every bracket is closed by one of its pair, group by group. -/
inductive Nested : List Char → Prop
  | nil : Nested []
  | plain {c : Char} {rest : List Char}
      (hc : ∀ pair ∈ bracketPairs, c ≠ pair.opener ∧ c ≠ pair.closer) (h : Nested rest) :
      Nested (c :: rest)
  | group {pair : BracketPair} {inner rest : List Char} (hp : pair ∈ bracketPairs)
      (hinner : Nested inner) (h : Nested rest) :
      Nested (pair.opener :: (inner ++ pair.closer :: rest))

theorem ne_of_pairs_ne : ∀ pair ∈ bracketPairs, ∀ other ∈ bracketPairs, pair ≠ other →
    (pair.opener ≠ other.opener ∧ pair.opener ≠ other.closer) ∧
      pair.closer ≠ other.opener ∧ pair.closer ≠ other.closer := by decide

theorem Nested.after {text : List Char} (h : Nested text) {pair : BracketPair}
    (hp : pair ∈ bracketPairs) (depth : Nat) : pair.after depth text = some depth := by
  induction h generalizing depth with
  | nil => rfl
  | plain hc _ ih =>
    rw [BracketPair.after_other (hc pair hp).1 (hc pair hp).2]
    exact ih depth
  | @group other inner rest ho _ _ ihinner ih =>
    by_cases hsame : other = pair
    · subst hsame
      rw [BracketPair.after_opener, BracketPair.after_append, ihinner, Option.bind_some,
        BracketPair.after_closer_succ (opener_ne_closer other hp)]
      exact ih depth
    · -- A group of another pair leaves the depth alone at both of its ends.
      obtain ⟨⟨hoo, hoc⟩, hco, hcc⟩ := ne_of_pairs_ne other ho pair hp hsame
      rw [BracketPair.after_other hoo hoc, BracketPair.after_append, ihinner, Option.bind_some,
        BracketPair.after_other hco hcc]
      exact ih depth

theorem Nested.fault? {text : List Char} (h : Nested text) {pair : BracketPair}
    (hp : pair ∈ bracketPairs) : pair.fault? text = none :=
  (BracketPair.scan_eq_none_iff 1).mpr (h.after hp 0)

end Nested

/-- The issues on brackets come first, in the order of the pairs, at most one for a pair: it is
what the balances of the pair say. A properly nested code has none, and what is reported on a pair
depends on its brackets and the line ends alone. -/
theorem brackets_follow_balance (code : String) :
    (∃ (found : BracketPair → Option BracketFault) (others : List String),
      (Layer.writing.review code).issues =
        (bracketPairs.filterMap fun pair => (found pair).map pair.describe) ++ others ∧
      ∀ pair ∈ bracketPairs,
        (∀ finding, pair.Finds 0 1 code.toList finding ↔ found pair = finding) ∧
        ∀ fault, pair.describe fault ∉ others) ∧
    (∀ pair ∈ bracketPairs, ∀ fault, pair.describe fault ∈ (Layer.writing.review code).issues ↔
      pair.Finds 0 1 code.toList (some fault)) ∧
    (Nested code.toList → ∀ pair ∈ bracketPairs, ∀ fault,
      pair.describe fault ∉ (Layer.writing.review code).issues) ∧
    ∀ (other : String), ∀ pair ∈ bracketPairs,
      pair.projection code.toList = pair.projection other.toList →
      ∀ fault, pair.describe fault ∈ (Layer.writing.review code).issues ↔
        pair.describe fault ∈ (Layer.writing.review other).issues := by
  refine ⟨⟨fun pair => pair.fault? code.toList, _, writing_issues code, fun pair hp => ⟨?_, ?_⟩⟩,
    ?_, ?_, ?_⟩
  · intro finding
    exact BracketPair.finds_iff hp
  · intro fault
    exact describe_notMem pair fault _
  · intro pair hp fault
    rw [describe_mem_iff hp, BracketPair.finds_iff hp]
  · intro hnested pair hp fault hmem
    rw [describe_mem_iff hp, hnested.fault? hp] at hmem
    cases hmem
  · intro other pair hp hsame fault
    rw [describe_mem_iff hp, describe_mem_iff hp, BracketPair.fault?, BracketPair.fault?,
      ← pair.scan_projection 0 1 code.toList, hsame, pair.scan_projection]

example : bracketIssues "[(\n\x7d]".toList =
    ["Unmatched closing '\x7d' on line 2 (curly braces)", "Unbalanced parentheses, off by 1"] := by
  decide

/-- A call with an index is properly nested, and to the parentheses it reads like any other call
that ends its line. -/
theorem call_nests :
    Nested "f(x[0])\n".toList ∧
    (∀ pair ∈ bracketPairs, ∀ fault,
      pair.describe fault ∉ (Layer.writing.review "f(x[0])\n").issues) ∧
    ∃ pair ∈ bracketPairs, pair.opener = '(' ∧
      pair.projection "f(x[0])\n".toList = pair.projection "g(])\n".toList ∧
      ∀ fault, pair.describe fault ∈ (Layer.writing.review "f(x[0])\n").issues ↔
        pair.describe fault ∈ (Layer.writing.review "g(])\n").issues := by
  have hindex : Nested ['x', '[', '0', ']'] :=
    .plain (by decide) (@Nested.group ⟨'[', ']', "square brackets"⟩ ['0'] [] (by decide)
      (.plain (by decide) .nil) .nil)
  have hnested : Nested "f(x[0])\n".toList :=
    .plain (by decide) (@Nested.group ⟨'(', ')', "parentheses"⟩ ['x', '[', '0', ']'] ['\n']
      (by decide) hindex (.plain (by decide) .nil))
  obtain ⟨_, _, hnone, hsame⟩ := brackets_follow_balance "f(x[0])\n"
  exact ⟨hnested, hnone hnested, ⟨'(', ')', "parentheses"⟩, by decide, rfl, by decide,
    hsame "g(])\n" _ (by decide) (by decide)⟩

end Storyboard.Review
