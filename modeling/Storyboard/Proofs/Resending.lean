import Storyboard.Model.Retry
import Storyboard.Proofs.Checks
import Storyboard.Proofs.Doubles

/-!
# Which outcome is the result

Requests go out one after another until an outcome is settled: a value, or a failure that
does not pass by itself. That outcome is the result, or the last one that the limit allows,
and there is one pause between two requests. The pause after a request doubles with its
number, so this holds as long as the doubled factor is a double. The first pause whose factor
is none fails itself, and its failure takes the place of the outcome. Likewise a failure that
does not tell its message, when it is asked whether it may pass, gives way to another.
-/

namespace Storyboard

open Checking

section Limits

theorem Settings.readCount_positive {origin : Origin} {input : Json} {n : Int}
    (h : readCount origin input = .accepted n) : 1 ≤ n := by
  have hnot := (unless_refused_eq_accepted_iff.mp h).2
  omega

theorem Settings.readDelay_positive {origin : Origin} {input : Json} {x : Float}
    (h : readDelay origin input = .accepted x) : ¬ x ≤ 0 :=
  (unless_refused_eq_accepted_iff.mp h).2

/-- What a check of settings makes sure of for sending again. -/
structure Settings.Resends (settings : Settings) : Prop where
  limit : 1 ≤ settings.retryLimit
  base : ¬ settings.retryBase ≤ 0
  cap : ¬ settings.retryCap ≤ 0

/-- The three fields that say how a request is sent again. -/
structure Settings.RetryFields (settings : Settings) (fields : Fields) : Prop where
  limit : Checking.optional (.same "retry_max_attempts") readCount standard.retryLimit fields =
    .accepted settings.retryLimit
  base : Checking.optional (.same "retry_base_delay") readDelay standard.retryBase fields =
    .accepted settings.retryBase
  cap : Checking.optional (.same "retry_max_delay") readDelay standard.retryCap fields =
    .accepted settings.retryCap

theorem Settings.retryFields_of_check {origin : Origin} {entries : Json.Entries}
    {settings : Settings} (h : Settings.check origin (.object entries) = .accepted settings) :
    settings.RetryFields ⟨origin, entries⟩ := by
  obtain ⟨_, _, huri, _, rfl⟩ := seq_eq_accepted_iff.mp h
  obtain ⟨_, _, htracing, _, rfl⟩ := seq_eq_accepted_iff.mp huri
  obtain ⟨_, _, hpath, _, rfl⟩ := seq_eq_accepted_iff.mp htracing
  obtain ⟨_, _, hcap, _, rfl⟩ := seq_eq_accepted_iff.mp hpath
  obtain ⟨_, _, hbase, hlongest, rfl⟩ := seq_eq_accepted_iff.mp hcap
  obtain ⟨_, _, hlimit, hfirst, rfl⟩ := seq_eq_accepted_iff.mp hbase
  obtain ⟨_, _, happ, hcount, rfl⟩ := seq_eq_accepted_iff.mp hlimit
  obtain ⟨_, _, hreferer, _, rfl⟩ := seq_eq_accepted_iff.mp happ
  obtain ⟨_, _, htimeout, _, rfl⟩ := seq_eq_accepted_iff.mp hreferer
  obtain ⟨_, _, hattempts, _, rfl⟩ := seq_eq_accepted_iff.mp htimeout
  obtain ⟨_, _, htokens, _, rfl⟩ := seq_eq_accepted_iff.mp hattempts
  obtain ⟨_, _, htemperature, _, rfl⟩ := seq_eq_accepted_iff.mp htokens
  obtain ⟨_, _, hgemini, _, rfl⟩ := seq_eq_accepted_iff.mp htemperature
  obtain ⟨_, _, hgeminiKey, _, rfl⟩ := seq_eq_accepted_iff.mp hgemini
  obtain ⟨_, _, hmodel, _, rfl⟩ := seq_eq_accepted_iff.mp hgeminiKey
  obtain ⟨_, _, hurl, _, rfl⟩ := seq_eq_accepted_iff.mp hmodel
  obtain ⟨_, _, hkey, _, rfl⟩ := seq_eq_accepted_iff.mp hurl
  obtain ⟨_, _, hprovider, _, rfl⟩ := seq_eq_accepted_iff.mp hkey
  obtain ⟨_, _, rfl⟩ := mapped_eq_accepted_iff.mp hprovider
  exact ⟨hcount, hfirst, hlongest⟩

theorem Settings.resends_of_check {origin : Origin} {input : Json} {settings : Settings}
    (h : Settings.check origin input = .accepted settings) : settings.Resends := by
  cases input with
  | object entries =>
    have hfields := retryFields_of_check h
    have hone : 1 ≤ standard.retryLimit := by decide
    have hbelow : ¬ standard.retryBase ≤ 0 := by decide +kernel
    have habove : ¬ standard.retryCap ≤ 0 := by decide +kernel
    exact ⟨holds_of_optional readCount_positive hone hfields.limit,
      holds_of_optional (P := (¬ · ≤ 0)) readDelay_positive hbelow hfields.base,
      holds_of_optional (P := (¬ · ≤ 0)) readDelay_positive habove hfields.cap⟩
  | _ => contradiction

end Limits

end Storyboard

namespace Storyboard.Model

open Decimal (doubleExponents doubleOfInt_two_pow)

-- Powers are those of the core library, whatever else is imported.
attribute [local instance (high)] instPowNat Int.instNatPow

/-- No request follows this outcome. -/
def isSettled : Except Failure α → Bool
  | .ok _ => true
  | .error failure => !failure.isTransient matches .ok true

/-- An outcome as it is met: a failure that has to tell its message and does not is replaced by
the failure of telling it. -/
def met : Except Failure α → Except Failure α
  | .ok value => .ok value
  | .error failure =>
    match failure.isTransient with
    | .error untold => .error untold
    | .ok _ => .error failure

/-- Only a failure that does not tell its message is not met as it is. -/
theorem met_cases (outcome : Except Failure α) :
    met outcome = outcome ∨ ∃ failure untold, outcome = .error failure ∧
      failure.family ≠ .connection ∧ failure.told = .error untold ∧ met outcome = .error untold := by
  cases outcome with
  | ok value => exact Or.inl rfl
  | error failure =>
    by_cases hfamily : failure.family = .connection
    · exact Or.inl (by simp only [met, Failure.isTransient, if_pos hfamily])
    · cases htold : failure.told with
      | ok message =>
        exact Or.inl (by simp only [met, Failure.isTransient, if_neg hfamily, htold, Except.map])
      | error untold =>
        refine Or.inr ⟨failure, untold, rfl, hfamily, htold, ?_⟩
        simp only [met, Failure.isTransient, if_neg hfamily, htold, Except.map]

/-- Outcomes that are known beforehand; the state counts the requests. -/
def tape (outcomes : Nat → Except Failure α) (number : Nat) : Except Failure α × Nat :=
  (outcomes number, number + 1)

/-- The number of the request with the first outcome that is settled, or of the last one. -/
def lastRequest (outcomes : Nat → Except Failure α) (limit : Nat) : Nat :=
  ((List.range limit).find? fun number => isSettled (outcomes number)).getD (limit - 1)

/-- What ends the requests is a settled outcome or the limit. -/
structure EndsAt (outcomes : Nat → Except Failure α) (limit last : Nat) : Prop where
  within : last < limit
  goesOn : ∀ number < last, isSettled (outcomes number) = false
  ends : isSettled (outcomes last) = true ∨ last + 1 = limit

theorem lastRequest_endsAt (outcomes : Nat → Except Failure α) {limit : Nat} (h : 0 < limit) :
    EndsAt outcomes limit (lastRequest outcomes limit) := by
  unfold lastRequest
  cases hfind : (List.range limit).find? fun number => isSettled (outcomes number) with
  | none =>
    have hnone : ∀ number < limit, isSettled (outcomes number) = false := by
      simpa using hfind
    have hlast : limit - 1 < limit := by omega
    refine ⟨hlast, fun number hlt => hnone number (Nat.lt_trans hlt hlast), Or.inr ?_⟩
    exact Nat.succ_pred_eq_of_pos h
  | some last =>
    obtain ⟨hsettled, hmem, hbefore⟩ := List.find?_range_eq_some.mp hfind
    exact ⟨List.mem_range.mp hmem, by simpa using hbefore, Or.inl hsettled⟩

theorem lastRequest_of_transient {outcomes : Nat → Except Failure α} {limit : Nat}
    (h : ∀ number < limit, isSettled (outcomes number) = false) :
    lastRequest outcomes limit = limit - 1 := by
  have hnone : (List.range limit).find? (fun number => isSettled (outcomes number)) = none := by
    simpa using h
  rw [lastRequest, hnone, Option.getD_none]

namespace RetryPolicy

/-- The pause after the request with this number, if its factor is a double. -/
def wait (policy : RetryPolicy) (number : Nat) (random : Float) : Float :=
  let wanted := policy.base * Float.ofNat (2 ^ number) + random
  if policy.cap < wanted then policy.cap else wanted

theorem pause_eq (policy : RetryPolicy) (number : Nat) (random : Float) :
    policy.pause number random =
      if number < doubleExponents then .ok (policy.wait number random)
      else .error .beyondDouble := by
  rw [pause, doubleOfInt_two_pow]
  split <;> rfl

section Loop

/-- The requests with the given numbers, one after another. There is no result if the
numbers run out without one. -/
def loop (policy : RetryPolicy) (send : σ → Except Failure α × σ) :
    List Nat → σ → Pacing → Option (Except Failure α × σ × Pacing)
  | [], _, _ => none
  | number :: numbers, state, pacing =>
    match send state with
    | (.ok value, state) => some (.ok value, state, pacing)
    | (.error failure, state) =>
      match failure.isTransient with
      | .error untold => some (.error untold, state, pacing)
      | .ok passes =>
        if !passes || (number : Int) = policy.limit - 1 then some (.error failure, state, pacing)
        else
          match policy.pause number pacing.draw with
          | .error fault => some (.error (.number fault), state, pacing)
          | .ok pause =>
            policy.loop send numbers state
              { jitter := pacing.jitter.tail
                pauses := pacing.pauses ++ [pause]
                log := pacing.log ++ [policy.report number pause failure] }

theorem loop_range' (policy : RetryPolicy) (send : σ → Except Failure α × σ) (more number : Nat)
    (h : ((number + more : Nat) : Int) = policy.limit - 1) (state : σ) (pacing : Pacing) :
    policy.loop send (List.range' number (more + 1)) state pacing =
      some (policy.sendFrom send more number state pacing) := by
  induction more generalizing number state pacing with
  | zero =>
    have hlast : (number : Int) = policy.limit - 1 := h
    rw [List.range'_succ, loop]
    cases hs : send state with
    | mk answer after =>
      cases answer with
      | ok value => rw [sendFrom_ok hs]
      | error failure =>
        dsimp only
        cases ht : failure.isTransient with
        | error untold => rw [sendFrom_untold hs ht]
        | ok passes =>
          rw [sendFrom_last hs ht (Or.inr rfl)]
          simp only [hlast, decide_true, Bool.or_true, if_true]
  | succ more ih =>
    have hnot : ¬ (number : Int) = policy.limit - 1 := by omega
    have hrest := ih (number + 1) (by omega)
    rw [List.range'_succ, loop]
    cases hs : send state with
    | mk answer after =>
      cases answer with
      | ok value => rw [sendFrom_ok hs]
      | error failure =>
        dsimp only
        rcases ht : failure.isTransient with untold | ⟨_ | _⟩
        · rw [sendFrom_untold hs ht]
        · rw [sendFrom_last hs ht (Or.inl rfl)]
          rfl
        · rw [sendFrom_again hs ht]
          simp only [hnot, Bool.not_true, decide_false, Bool.or_false, Bool.false_eq_true, if_false]
          cases policy.pause number pacing.draw with
          | error fault => rfl
          | ok pause => exact hrest _ _

/-- The numbers never run out: the loop over all of them has the result of the policy. -/
theorem loop_range (policy : RetryPolicy) (h : 1 ≤ policy.limit)
    (send : σ → Except Failure α × σ) (state : σ) (pacing : Pacing) :
    policy.loop send (List.range policy.limit.toNat) state pacing =
      some (policy.run send state pacing) := by
  have hlimit : policy.limit.toNat = policy.limit.toNat - 1 + 1 := by omega
  have hloop := policy.loop_range' send (policy.limit.toNat - 1) 0 (by omega) state pacing
  rwa [← hlimit, ← List.range_eq_range'] at hloop

end Loop

section Steps

variable (policy : RetryPolicy) {outcomes : Nat → Except Failure α} {number : Nat}

theorem sendFrom_settled {more : Nat} (h : isSettled (outcomes number) = true ∨ more = 0)
    (pacing : Pacing) :
    policy.sendFrom (tape outcomes) more number number pacing =
      (met (outcomes number), number + 1, pacing) := by
  cases hout : outcomes number with
  | ok value => exact sendFrom_ok (Prod.ext hout rfl)
  | error failure =>
    have hs : tape outcomes number = (.error failure, number + 1) := Prod.ext hout rfl
    rw [hout, isSettled] at h
    rw [met]
    cases ht : failure.isTransient with
    | error untold => exact sendFrom_untold hs ht
    | ok passes =>
      refine sendFrom_last hs ht (h.imp_left fun hsettled => ?_)
      rw [ht] at hsettled
      cases passes with
      | false => rfl
      | true => contradiction

theorem sendFrom_unsettled (h : isSettled (outcomes number) = false) (more : Nat)
    (pacing : Pacing) :
    ∃ failure, policy.sendFrom (tape outcomes) (more + 1) number number pacing =
      match policy.pause number pacing.draw with
      | .error fault => (.error (.number fault), number + 1, pacing)
      | .ok pause => policy.sendFrom (tape outcomes) more (number + 1) (number + 1)
          { jitter := pacing.jitter.tail
            pauses := pacing.pauses ++ [pause]
            log := pacing.log ++ [policy.report number pause failure] } := by
  cases hout : outcomes number with
  | ok value =>
    rw [hout] at h
    contradiction
  | error failure =>
    have hs : tape outcomes number = (.error failure, number + 1) := Prod.ext hout rfl
    have ht : failure.isTransient = .ok true := by
      rw [hout, isSettled] at h
      rcases ht : failure.isTransient with untold | ⟨_ | _⟩
      · rw [ht] at h
        contradiction
      · rw [ht] at h
        contradiction
      · rfl
    exact ⟨failure, sendFrom_again hs ht⟩

/-- A transient failure is followed by a pause and the next request. -/
theorem sendFrom_waits (h : isSettled (outcomes number) = false) (hn : number < doubleExponents)
    (more : Nat) (pacing : Pacing) :
    ∃ entry, policy.sendFrom (tape outcomes) (more + 1) number number pacing =
      policy.sendFrom (tape outcomes) more (number + 1) (number + 1)
        { jitter := pacing.jitter.tail
          pauses := pacing.pauses ++ [policy.wait number pacing.draw]
          log := pacing.log ++ [entry] } := by
  obtain ⟨failure, hsend⟩ := policy.sendFrom_unsettled h more pacing
  rw [pause_eq, if_pos hn] at hsend
  exact ⟨_, hsend⟩

/-- Where the factor of a pause is no double, the request is the last one. -/
theorem sendFrom_fails (h : isSettled (outcomes number) = false) (hn : doubleExponents ≤ number)
    (more : Nat) (pacing : Pacing) :
    policy.sendFrom (tape outcomes) (more + 1) number number pacing =
      (.error (.number .beyondDouble), number + 1, pacing) := by
  obtain ⟨failure, hsend⟩ := policy.sendFrom_unsettled h more pacing
  rwa [pause_eq, if_neg (Nat.not_lt.mpr hn)] at hsend

end Steps

/-- The pauses after the first requests. -/
def waits (policy : RetryPolicy) (jitter : List Float) (count : Nat) : List Float :=
  (List.range count).map fun number => policy.wait number (jitter.getD number 0)

theorem length_waits (policy : RetryPolicy) (jitter : List Float) (count : Nat) :
    (policy.waits jitter count).length = count := by
  rw [waits, List.length_map, List.length_range]

theorem waits_succ (policy : RetryPolicy) (jitter : List Float) (count : Nat) :
    policy.waits jitter (count + 1) =
      policy.waits jitter count ++ [policy.wait count (jitter.getD count 0)] := by
  rw [waits, List.range_succ, List.map_append]
  rfl

/-- As long as no outcome is settled and every factor is a double, requests and pauses
alternate. -/
theorem sendFrom_alternates (policy : RetryPolicy) (outcomes : Nat → Except Failure α)
    (count more : Nat) (h : ∀ number < count, isSettled (outcomes number) = false)
    (hc : count ≤ doubleExponents) (pacing : Pacing) :
    ∃ log, log.length = count ∧ policy.sendFrom (tape outcomes) (count + more) 0 0 pacing =
      policy.sendFrom (tape outcomes) more count count
        ⟨pacing.jitter.drop count, pacing.pauses ++ policy.waits pacing.jitter count,
          pacing.log ++ log⟩ := by
  -- On the pauses, the last one split off: it is the one that `more` gives away.
  induction count generalizing more with
  | zero =>
    refine ⟨[], rfl, ?_⟩
    rw [Nat.zero_add, List.drop_zero]
    simp [waits]
  | succ count ih =>
    obtain ⟨log, hlength, hsend⟩ := ih (more + 1)
      (fun number hlt => h number (Nat.lt_succ_of_lt hlt)) (Nat.le_of_succ_le hc)
    obtain ⟨entry, hnext⟩ := policy.sendFrom_waits (h count (Nat.lt_succ_self _)) hc more
      ⟨pacing.jitter.drop count, pacing.pauses ++ policy.waits pacing.jitter count,
        pacing.log ++ log⟩
    have hdraw : Pacing.draw ⟨pacing.jitter.drop count,
        pacing.pauses ++ policy.waits pacing.jitter count, pacing.log ++ log⟩ =
          pacing.jitter.getD count 0 := by
      rw [Pacing.draw, List.head?_drop, List.getD_eq_getElem?_getD]
    have hcount : count + 1 + more = count + (more + 1) := by omega
    refine ⟨log ++ [entry], by rw [List.length_append, hlength, List.length_singleton], ?_⟩
    rw [hcount, hsend, hnext, hdraw, waits_succ, List.tail_drop, List.append_assoc,
      List.append_assoc]

/-- The result of accepted settings is the settled outcome or the last one, as it is met, if no
pause before it fails. The first pause that fails is the one after the request with the number
`doubleExponents`. -/
theorem run_of_outcomes {origin : Checking.Origin} {input : Json} {settings : Settings}
    (h : Settings.check origin input = .accepted settings)
    (outcomes : Nat → Except Failure α) (pacing : Pacing) :
    let policy := RetryPolicy.ofSettings settings
    let numbers := List.range settings.retryLimit.toNat
    let last := lastRequest outcomes settings.retryLimit.toNat
    let count := min last doubleExponents
    policy.loop (tape outcomes) numbers 0 pacing = some (policy.run (tape outcomes) 0 pacing) ∧
    (met (outcomes last) = outcomes last ∨ ∃ failure untold, outcomes last = .error failure ∧
      failure.family ≠ .connection ∧ failure.told = .error untold ∧
      met (outcomes last) = .error untold) ∧
    ∃ log, log.length = count ∧ policy.run (tape outcomes) 0 pacing =
      (if last ≤ doubleExponents then met (outcomes last) else .error (.number .beyondDouble), count + 1,
        ⟨pacing.jitter.drop count, pacing.pauses ++ policy.waits pacing.jitter count,
          pacing.log ++ log⟩) := by
  have hlimit := (Settings.resends_of_check h).limit
  intro policy numbers last count
  have hends : EndsAt outcomes settings.retryLimit.toNat last :=
    lastRequest_endsAt outcomes (by omega)
  have hwithin := hends.within
  refine ⟨policy.loop_range hlimit _ _ _, met_cases _, ?_⟩
  obtain ⟨log, hlength, hsend⟩ := policy.sendFrom_alternates outcomes count
    (settings.retryLimit.toNat - 1 - count) (fun number hlt => hends.goesOn number (by omega))
    (by omega) pacing
  have hmore : count + (settings.retryLimit.toNat - 1 - count) =
      settings.retryLimit.toNat - 1 := by omega
  refine ⟨log, hlength, ?_⟩
  rw [hmore] at hsend
  change policy.sendFrom (tape outcomes) (settings.retryLimit.toNat - 1) 0 0 pacing = _
  rw [hsend]
  by_cases hle : last ≤ doubleExponents
  · have hcount : count = last := Nat.min_eq_left hle
    have hstop : isSettled (outcomes last) = true ∨ settings.retryLimit.toNat - 1 - last = 0 := by
      refine hends.ends.imp_right fun hlast => ?_
      omega
    rw [hcount, if_pos hle, sendFrom_settled policy hstop]
  · have hcount : count = doubleExponents := Nat.min_eq_right (by omega)
    obtain ⟨more, hleft⟩ : ∃ more, settings.retryLimit.toNat - 1 - doubleExponents = more + 1 :=
      ⟨settings.retryLimit.toNat - 2 - doubleExponents, by omega⟩
    have hgoesOn := hends.goesOn doubleExponents (by omega)
    rw [hcount, if_neg hle, hleft, sendFrom_fails policy hgoesOn (Nat.le_refl _)]

/-- A connection that times out for ever has that failure as its last outcome, but the 1025th
request is not followed by another. -/
theorem run_outlasts_doubles :
    let settings := { Settings.standard with retryLimit := 1026 }
    let outcomes : Nat → Except Failure Json :=
      fun _ => .error (.foreign (.telling .connection "ReadTimeout" "t"))
    Settings.check .value (.object [("retry_max_attempts", .int 1026)]) = .accepted settings ∧
      lastRequest outcomes 1026 = 1025 ∧
      ∃ pacing, (ofSettings settings).run (tape outcomes) 0 ⟨[], [], []⟩ =
        (.error (.number .beyondDouble), 1025, pacing) ∧ pacing.pauses.length = 1024 := by
  intro settings outcomes
  have hcheck : Settings.check .value (.object [("retry_max_attempts", .int 1026)]) =
      .accepted settings := rfl
  have hlast : lastRequest outcomes 1026 = 1025 := lastRequest_of_transient fun _ _ => rfl
  obtain ⟨_, _, log, _, hrun⟩ := run_of_outcomes hcheck outcomes ⟨[], [], []⟩
  have hlimit : settings.retryLimit.toNat = 1026 := rfl
  have hmin : min 1025 doubleExponents = 1024 := rfl
  have hover : ¬ 1025 ≤ doubleExponents := by decide
  rw [hlimit, hlast, hmin, if_neg hover] at hrun
  refine ⟨hcheck, hlast, _, hrun, ?_⟩
  rw [List.nil_append, length_waits]

end RetryPolicy

end Storyboard.Model
