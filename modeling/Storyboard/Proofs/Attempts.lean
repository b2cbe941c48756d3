import Mathlib.Data.Nat.Find
import Storyboard.Job.Generation

/-!
# The attempts of a job

The attempts of a job are first laid out as if none of them ended it: each is made
on the line that the one before left behind and is told what was wrong with that
one. A job makes an initial piece of this sequence, up to the first decisive
attempt or to the end of its budget. Nothing here is said about the replies.
-/

namespace Storyboard

open Plan (Trace)

/-- The attempt ends its job, whatever is left of the budget. -/
def Attempt.isDecisive (attempt : Attempt) : Bool :=
  attempt.passed || attempt.isForbidden || attempt.escape.isSome

namespace Attempt

section Failed

variable (index : Int) (prompt : String) (reply : Option Json) (failure : Failure)

@[simp] theorem failed_index : (failed index prompt reply failure).1.index = index := by
  unfold failed
  cases failure.describe <;> rfl

@[simp] theorem failed_passed : (failed index prompt reply failure).1.passed = false := by
  unfold failed
  cases failure.describe <;> rfl

theorem failed_escape : (failed index prompt reply failure).1.escape =
    match failure.describe with
    | .ok _ => none
    | .error other => some other := by
  unfold failed
  cases failure.describe <;> rfl

@[simp] theorem failed_isForbidden : (failed index prompt reply failure).1.isForbidden = false := by
  unfold failed
  cases failure.describe <;> rfl

end Failed

theorem isDecisive_eq_false_iff {attempt : Attempt} : attempt.isDecisive = false ↔
    attempt.passed = false ∧ attempt.isForbidden = false ∧ attempt.escape = none := by
  simp [isDecisive, and_assoc]

/-- Code that passes the whole review passes its safety layer. -/
theorem safe_of_review_passed {code : String} (h : (Review.review code).passed = true) :
    (Review.Layer.safety.review code).passed = true :=
  (Review.review_passed_iff code).mp h .safety (by decide)

/-- An attempt that passed holds a text whose code was reviewed, and nothing else. -/
theorem ofAnswer_passed {index : Int} {prompt : String} {answer : Except Failure Json}
    (h : (ofAnswer index prompt answer).1.passed = true) :
    ∃ reply, (ofAnswer index prompt answer).1.reply = some (.text reply) ∧
      (ofAnswer index prompt answer).1.code = some (Fence.code reply) ∧
      (Review.review (Fence.code reply)).passed = true := by
  unfold ofAnswer at h ⊢
  split at h
  · simp at h
  · next reply => exact ⟨reply, rfl, rfl, by simpa [passed] using h⟩
  · simp at h

/-- A failure gets out of an attempt in the place of one that does not tell its message. -/
theorem ofAnswer_escape_eq_some {index : Int} {prompt : String} {answer : Except Failure Json}
    {other : Failure} (h : (ofAnswer index prompt answer).1.escape = some other) :
    ∃ failure, answer = .error failure ∧ failure.told = .error other := by
  unfold ofAnswer at h
  split at h
  · next failure =>
    rw [failed_escape] at h
    split at h
    · contradiction
    · next found hd =>
      obtain rfl := Option.some.inj h
      exact ⟨failure, rfl, Failure.told_of_describe_error hd⟩
  · contradiction
  · rw [failed_escape] at h
    contradiction

theorem ofAnswer_escape_family {index : Int} {prompt : String} {answer : Except Failure Json}
    {other : Failure} (h : (ofAnswer index prompt answer).1.escape = some other) :
    other.family = .other := by
  obtain ⟨failure, _, htold⟩ := ofAnswer_escape_eq_some h
  exact Failure.family_of_told_error htold

/-- Nothing gets out of an attempt that passed. -/
theorem ofAnswer_escape {index : Int} {prompt : String} {answer : Except Failure Json}
    (h : (ofAnswer index prompt answer).1.passed = true) :
    (ofAnswer index prompt answer).1.escape = none := by
  unfold ofAnswer at h ⊢
  split at h
  · simp at h
  · rfl
  · simp at h

end Attempt

namespace LoopState

variable {state : LoopState} {attempt : Attempt} {budget : Int}

/-- An attempt that is not decisive is followed by the next one while the budget lasts. -/
theorem afterAttempt_goesOn (h : attempt.isDecisive = false) (hb : state.attempt + 1 < budget) :
    state.afterAttempt attempt budget = ⟨.attempting, state.attempt + 1, attempt.diagnostics⟩ := by
  obtain ⟨hp, hf, he⟩ := Attempt.isDecisive_eq_false_iff.mp h
  simp [afterAttempt, hp, hf, he, hb]

theorem afterAttempt_passed (h : attempt.passed = true) :
    (state.afterAttempt attempt budget).phase = .succeeded := by
  simp [afterAttempt, h]

theorem afterAttempt_forbidden (hp : attempt.passed = false) (hf : attempt.isForbidden = true) :
    (state.afterAttempt attempt budget).phase = .securityAborted := by
  simp [afterAttempt, hp, hf]

theorem afterAttempt_escaped (hp : attempt.passed = false) (hf : attempt.isForbidden = false)
    (he : attempt.escape.isSome = true) :
    (state.afterAttempt attempt budget).phase = .exhausted := by
  simp [afterAttempt, hp, hf, he]

theorem afterAttempt_exhausted (h : attempt.isDecisive = false) (hb : budget ≤ state.attempt + 1) :
    (state.afterAttempt attempt budget).phase = .exhausted := by
  obtain ⟨hp, hf, he⟩ := Attempt.isDecisive_eq_false_iff.mp h
  simp [afterAttempt, hp, hf, he, Int.not_lt.mpr hb]

/-- The job goes on after exactly these attempts. -/
theorem afterAttempt_attempting_iff :
    (state.afterAttempt attempt budget).phase = .attempting ↔
      attempt.isDecisive = false ∧ state.attempt + 1 < budget := by
  constructor
  · intro h
    cases hp : attempt.passed with
    | true => simp [afterAttempt_passed hp] at h
    | false =>
      cases hf : attempt.isForbidden with
      | true => simp [afterAttempt_forbidden hp hf] at h
      | false =>
        cases he : attempt.escape with
        | some failure => simp [afterAttempt_escaped hp hf (by rw [he]; rfl)] at h
        | none =>
          have hd : attempt.isDecisive = false :=
            Attempt.isDecisive_eq_false_iff.mpr ⟨hp, hf, he⟩
          refine ⟨hd, ?_⟩
          by_contra hb
          simp [afterAttempt_exhausted hd (Int.not_lt.mp hb)] at h
  · rintro ⟨hd, hb⟩
    rw [afterAttempt_goesOn hd hb]

end LoopState

namespace Plan

variable (plan : Plan) (settings : Settings) (line : Model.Line)

theorem runAttempt_eq (state : LoopState) : ∃ answer,
    (plan.runAttempt settings state line).1 =
      (Attempt.ofAnswer state.attempt (plan.promptsFor state).user answer).1 :=
  ⟨_, rfl⟩

/-- Where the job stands before an attempt, if none of the earlier ones ended it. -/
def before (plan : Plan) (settings : Settings) (line : Model.Line) : Nat → LoopState × Model.Line
  | 0 => (.start, line)
  | number + 1 =>
    let (state, line) := plan.before settings line number
    let (attempt, line) := plan.runAttempt settings state line
    (⟨.attempting, state.attempt + 1, attempt.diagnostics⟩, line)

/-- The attempt with a number, counted from zero, if none of the earlier ones ended the job. -/
def attemptAt (plan : Plan) (settings : Settings) (line : Model.Line) (number : Nat) : Attempt :=
  (plan.runAttempt settings (plan.before settings line number).1
    (plan.before settings line number).2).1

theorem before_attempt (number : Nat) :
    (plan.before settings line number).1.attempt = number := by
  induction number with
  | zero => rfl
  | succ number ih => simp [before, ih]

theorem before_phase (number : Nat) :
    (plan.before settings line number).1.phase = .attempting := by
  cases number <;> rfl

/-- The number of attempts that the settings allow; one is made in any case. -/
def rounds (settings : Settings) : Nat := settings.maxAttempts.toNat - 1 + 1

theorem rounds_eq {settings : Settings} (h : 1 ≤ settings.maxAttempts) :
    rounds settings = settings.maxAttempts.toNat := by
  unfold rounds
  omega

/-- `last` is the number of the attempt with which the job stops: the first decisive
one, or the last that the budget allows. -/
structure Stops (attempts : Nat → Attempt) (rounds last : Nat) : Prop where
  within : last < rounds
  goesOn : ∀ number < last, (attempts number).isDecisive = false
  ends : (attempts last).isDecisive = true ∨ last + 1 = rounds

theorem Stops.le {attempts : Nat → Attempt} {rounds first second : Nat}
    (h₁ : Stops attempts rounds first) (h₂ : Stops attempts rounds second) : first ≤ second := by
  by_contra hlt
  rcases h₂.ends with hd | hlast
  · rw [h₁.goesOn second (by omega)] at hd
    contradiction
  · have hwithin := h₁.within
    omega

/-- A job stops with one attempt only. -/
theorem Stops.unique {attempts : Nat → Attempt} {rounds first second : Nat}
    (h₁ : Stops attempts rounds first) (h₂ : Stops attempts rounds second) : first = second :=
  Nat.le_antisymm (h₁.le h₂) (h₂.le h₁)

theorem exists_stops (attempts : Nat → Attempt) {rounds : Nat} (h : 0 < rounds) :
    ∃ last, Stops attempts rounds last := by
  have hex : ∃ number, (attempts number).isDecisive = true ∨ number + 1 = rounds :=
    ⟨rounds - 1, Or.inr (by omega)⟩
  refine ⟨Nat.find hex, ?_, fun number hlt => ?_, Nat.find_spec hex⟩
  · have hle := Nat.find_min' hex (m := rounds - 1) (Or.inr (by omega))
    omega
  · have hmin := Nat.find_min hex hlt
    push Not at hmin
    simpa using hmin.1

/-- The state after the attempt with a number. -/
def stateAfter (plan : Plan) (settings : Settings) (line : Model.Line) (number : Nat) : LoopState :=
  (plan.before settings line number).1.afterAttempt (plan.attemptAt settings line number)
    settings.maxAttempts

/-- A job that goes on stands before the next attempt of the sequence. -/
theorem before_succ (number : Nat)
    (hd : (plan.attemptAt settings line number).isDecisive = false)
    (hb : number + 1 < rounds settings) :
    plan.stateAfter settings line number = (plan.before settings line (number + 1)).1 := by
  have hbudget : (plan.before settings line number).1.attempt + 1 < settings.maxAttempts := by
    rw [before_attempt]
    unfold rounds at hb
    omega
  rw [stateAfter, LoopState.afterAttempt_goesOn hd hbudget]
  rfl

/-- The job stops after an attempt that is decisive or the last one of the budget. -/
theorem stateAfter_ends {number : Nat}
    (h : (plan.attemptAt settings line number).isDecisive = true ∨
      number + 1 = rounds settings) :
    (plan.stateAfter settings line number).phase ≠ .attempting := by
  intro hphase
  obtain ⟨hd, hb⟩ := LoopState.afterAttempt_attempting_iff.mp hphase
  rw [before_attempt] at hb
  rcases h with h | h
  · rw [h] at hd
    contradiction
  · unfold rounds at h
    omega

theorem runFrom_stop {more : Nat} {state : LoopState}
    (h : (state.afterAttempt (plan.runAttempt settings state line).1
      settings.maxAttempts).phase ≠ .attempting) :
    plan.runFrom settings more state line =
      (Trace.one (plan.runAttempt settings state line).1
        (state.afterAttempt (plan.runAttempt settings state line).1 settings.maxAttempts),
        (plan.runAttempt settings state line).2) := by
  rw [runFrom]
  dsimp only
  split
  · next hphase => exact absurd hphase h
  · rfl

theorem runFrom_goesOn {more : Nat} {state : LoopState}
    (h : (state.afterAttempt (plan.runAttempt settings state line).1
      settings.maxAttempts).phase = .attempting) :
    plan.runFrom settings (more + 1) state line =
      ((plan.runFrom settings more
        (state.afterAttempt (plan.runAttempt settings state line).1 settings.maxAttempts)
        (plan.runAttempt settings state line).2).1.after (plan.runAttempt settings state line).1
        (state.afterAttempt (plan.runAttempt settings state line).1 settings.maxAttempts),
      (plan.runFrom settings more
        (state.afterAttempt (plan.runAttempt settings state line).1 settings.maxAttempts)
        (plan.runAttempt settings state line).2).2) := by
  rw [runFrom]
  simp only [h]

/-- From the attempt with number `first` on, a job makes `count` further attempts
when it stops at the last of them. -/
theorem runFrom_of_stops {last : Nat}
    (hs : Stops (plan.attemptAt settings line) (rounds settings) last) :
    ∀ count first more, first + count = last → first + more + 1 = rounds settings →
      plan.runFrom settings more (plan.before settings line first).1
        (plan.before settings line first).2 =
      (⟨(List.range' first (count + 1)).map (plan.attemptAt settings line),
        (List.range' first count).map (fun n => (plan.before settings line (n + 1)).1) ++
          [plan.stateAfter settings line last]⟩, (plan.before settings line (last + 1)).2) := by
  -- On the attempts before the last; the steps that are left shrink along with them.
  intro count
  induction count with
  | zero =>
    intro first more hlast _
    obtain rfl : first = last := by omega
    rw [runFrom_stop _ _ _ (plan.stateAfter_ends settings line hs.ends)]
    rfl
  | succ count ih =>
    intro first more hlast hmore
    have hlt : first < last := by omega
    have hnext := plan.before_succ settings line first (hs.goesOn first hlt)
      (by have := hs.within; omega)
    obtain ⟨more, rfl⟩ : ∃ m, more = m + 1 := ⟨more - 1, by have := hs.within; omega⟩
    have hphase : (plan.stateAfter settings line first).phase = .attempting := by
      rw [hnext, before_phase]
    have hrest := ih (first + 1) more (by omega) (by omega)
    have hgoesOn : plan.runFrom settings more (plan.stateAfter settings line first)
        (plan.runAttempt settings (plan.before settings line first).1
          (plan.before settings line first).2).2 =
        plan.runFrom settings more (plan.before settings line (first + 1)).1
          (plan.before settings line (first + 1)).2 := by
      rw [hnext]
      rfl
    rw [runFrom_goesOn _ _ _ hphase]
    change (Trace.after _ (plan.stateAfter settings line first)
      (plan.runFrom settings more (plan.stateAfter settings line first) _).1,
      (plan.runFrom settings more (plan.stateAfter settings line first) _).2) = _
    rw [hgoesOn, hrest, hnext]
    rfl

theorem run_eq_of_stops {last : Nat}
    (hs : Stops (plan.attemptAt settings line) (rounds settings) last) :
    plan.run settings line =
      (⟨(List.range (last + 1)).map (plan.attemptAt settings line),
        (List.range last).map (fun n => (plan.before settings line (n + 1)).1) ++
          [plan.stateAfter settings line last]⟩, (plan.before settings line (last + 1)).2) := by
  simp only [List.range_eq_range']
  exact plan.runFrom_of_stops settings line hs last 0 (settings.maxAttempts.toNat - 1)
    (by omega) (by unfold rounds; omega)

/-- The attempts of a job are those of the sequence up to the one with which it stops. -/
theorem run_of_stops {last : Nat}
    (hs : Stops (plan.attemptAt settings line) (rounds settings) last) :
    (plan.run settings line).1 =
      ⟨(List.range (last + 1)).map (plan.attemptAt settings line),
        (List.range last).map (fun n => (plan.before settings line (n + 1)).1) ++
          [plan.stateAfter settings line last]⟩ := by
  rw [plan.run_eq_of_stops settings line hs]

theorem final_of_stops {last : Nat}
    (hs : Stops (plan.attemptAt settings line) (rounds settings) last) :
    (plan.run settings line).1.final = plan.stateAfter settings line last := by
  rw [run_of_stops _ _ _ hs]
  simp [Trace.final]

/-- The rules of a job, with no count of steps in them: an attempting job makes the attempt
it stands before and advances with it, forbidden code makes it advance once more, and a job
that succeeded or is exhausted has ended. Each step is one that `advance` allows. -/
inductive Runs (plan : Plan) (settings : Settings) :
    LoopState → Model.Line → List Attempt → List Phase → Model.Line → Prop
  | ended {state : LoopState} {line : Model.Line}
      (h : state.phase = .succeeded ∨ state.phase = .exhausted) :
      Runs plan settings state line [] [] line
  | attempt {state next : LoopState} {line line' : Model.Line} {attempts : List Attempt}
      {phases : List Phase} (h : state.phase = .attempting)
      (hn : state.advance (some (plan.runAttempt settings state line).1) settings.maxAttempts =
        .ok next)
      (hr : Runs plan settings next (plan.runAttempt settings state line).2 attempts phases line') :
      Runs plan settings state line ((plan.runAttempt settings state line).1 :: attempts)
        (next.phase :: phases) line'
  | abort {state next : LoopState} {line line' : Model.Line} {attempts : List Attempt}
      {phases : List Phase} (h : state.phase = .securityAborted)
      (hn : state.advance none standardBudget = .ok next)
      (hr : Runs plan settings next line attempts phases line') :
      Runs plan settings state line attempts (next.phase :: phases) line'

/-- The phase that follows forbidden code. -/
def closing (state : LoopState) : List Phase :=
  if state.phase = .securityAborted then [.exhausted] else []

theorem runs_closing {state : LoopState} (h : state.phase ≠ .attempting) :
    plan.Runs settings state line [] (closing state) line := by
  unfold closing
  cases hp : state.phase with
  | attempting => contradiction
  | succeeded => exact .ended (Or.inl hp)
  | exhausted => exact .ended (Or.inr hp)
  | securityAborted =>
    have hn : state.advance none standardBudget = .ok { state with phase := .exhausted } := by
      simp [LoopState.advance, hp]
    exact .abort hp hn (.ended (Or.inr rfl))

theorem advance_attempting {state : LoopState} (h : state.phase = .attempting) (attempt : Attempt)
    (budget : Int) :
    state.advance (some attempt) budget = .ok (state.afterAttempt attempt budget) := by
  simp [LoopState.advance, h]

theorem runFrom_states_ne_nil (more : Nat) (state : LoopState) :
    (plan.runFrom settings more state line).1.states ≠ [] := by
  cases more with
  | zero => simp [runFrom, Trace.one]
  | succ more =>
    by_cases h : (state.afterAttempt (plan.runAttempt settings state line).1
      settings.maxAttempts).phase = .attempting
    · simp [runFrom_goesOn _ _ _ h, Trace.after]
    · simp [runFrom_stop _ _ _ h, Trace.one]

theorem final_after {trace : Trace} (h : trace.states ≠ []) (attempt : Attempt)
    (state : LoopState) : (trace.after attempt state).final = trace.final := by
  simp [Trace.final, Trace.after, List.getLast?_cons, List.getLast?_eq_some_getLast h]

/-- With a budget that suffices for the attempts that may follow, the count of further
attempts never decides how a job goes on. -/
theorem runFrom_runs (more : Nat) {state : LoopState} {line : Model.Line}
    (hp : state.phase = .attempting) (hb : settings.maxAttempts ≤ state.attempt + more + 1) :
    plan.Runs settings state line (plan.runFrom settings more state line).1.attempts
      ((plan.runFrom settings more state line).1.states.map LoopState.phase ++
        closing (plan.runFrom settings more state line).1.final)
      (plan.runFrom settings more state line).2 := by
  induction more generalizing state line with
  | zero =>
    have hphase : (state.afterAttempt (plan.runAttempt settings state line).1
        settings.maxAttempts).phase ≠ .attempting := by
      intro h
      have := (LoopState.afterAttempt_attempting_iff.mp h).2
      omega
    rw [runFrom_stop _ _ _ hphase]
    exact .attempt hp (advance_attempting hp _ _) (plan.runs_closing settings _ hphase)
  | succ more ih =>
    by_cases hphase : (state.afterAttempt (plan.runAttempt settings state line).1
      settings.maxAttempts).phase = .attempting
    · rw [runFrom_goesOn _ _ _ hphase, final_after (plan.runFrom_states_ne_nil settings _ _ _)]
      refine .attempt hp (advance_attempting hp _ _) (ih hphase ?_)
      obtain ⟨hd, hlt⟩ := LoopState.afterAttempt_attempting_iff.mp hphase
      rw [LoopState.afterAttempt_goesOn hd hlt]
      push_cast at hb
      dsimp only
      omega
    · rw [runFrom_stop _ _ _ hphase]
      exact .attempt hp (advance_attempting hp _ _) (plan.runs_closing settings _ hphase)

/-- A job follows the rules to their end. -/
theorem run_runs :
    ∃ phases, (plan.run settings line).1.phases = .attempting :: phases ∧
      plan.Runs settings .start line (plan.run settings line).1.attempts phases
        (plan.run settings line).2 :=
  ⟨_, rfl, plan.runFrom_runs settings _ rfl (by simp only [LoopState.start]; omega)⟩

/-- The rules leave no choice. -/
theorem Runs.unique {plan : Plan} {settings : Settings} {state : LoopState}
    {line line₁ line₂ : Model.Line} {attempts₁ attempts₂ : List Attempt}
    {phases₁ phases₂ : List Phase} (h₁ : plan.Runs settings state line attempts₁ phases₁ line₁)
    (h₂ : plan.Runs settings state line attempts₂ phases₂ line₂) :
    attempts₁ = attempts₂ ∧ phases₁ = phases₂ ∧ line₁ = line₂ := by
  induction h₁ generalizing attempts₂ phases₂ line₂ with
  | ended h =>
    cases h₂ with
    | ended _ => exact ⟨rfl, rfl, rfl⟩
    | attempt h' | abort h' => rcases h with h | h <;> simp [h] at h'
  | attempt h hn _ ih =>
    cases h₂ with
    | ended h' => rcases h' with h' | h' <;> simp [h] at h'
    | abort h' => simp [h] at h'
    | attempt _ hn' hr' =>
      obtain rfl := Except.ok.inj (hn.symm.trans hn')
      obtain ⟨rfl, rfl, rfl⟩ := ih hr'
      exact ⟨rfl, rfl, rfl⟩
  | abort h hn _ ih =>
    cases h₂ with
    | ended h' => rcases h' with h' | h' <;> simp [h] at h'
    | attempt h' => simp [h] at h'
    | abort _ hn' hr' =>
      obtain rfl := Except.ok.inj (hn.symm.trans hn')
      obtain ⟨rfl, rfl, rfl⟩ := ih hr'
      exact ⟨rfl, rfl, rfl⟩

end Plan

end Storyboard
