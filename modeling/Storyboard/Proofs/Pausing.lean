import Storyboard.Proofs.Magnitudes
import Storyboard.Proofs.Resending
import Storyboard.Proofs.Results
import Storyboard.Settings.Source

/-!
# How long a pause is

A pause lies above zero and not above the cap, as long as the base and the cap are numbers. Settings
from the environment refuse a delay of zero or less, and with it everything but a delay above zero
and one that is no number: a pause from such a base is no number itself, and no pause is at most
such a cap.
-/

namespace Storyboard

open Decimal (doubleExponents)
open Results (bind_ok_iff mapError_ok_iff map_ok_iff)
open Checking

namespace Model.RetryPolicy

variable {policy : RetryPolicy} {random : Float} {number : Nat}

/-- A delay that the check of settings lets through: above zero, or no number. -/
def IsDelay (delay : Float) : Prop := 0 < delay ∨ delay.isNaN = true

theorem wait_within (hbase : 0 < policy.base) (hcap : 0 < policy.cap)
    (hn : number < doubleExponents) (hr : 0 ≤ random) :
    0 < policy.wait number random ∧ policy.wait number random ≤ policy.cap := by
  have hwanted : 0 < policy.base * Float.ofNat (2 ^ number) + random :=
    Decimal.zero_lt_add (Decimal.zero_lt_mul_two_pow hbase hn) hr
  unfold wait
  dsimp only
  by_cases hover : policy.cap < policy.base * Float.ofNat (2 ^ number) + random
  · rw [if_pos hover]
    exact ⟨hcap, Decimal.le_self hcap⟩
  · rw [if_neg hover]
    exact ⟨hwanted, Decimal.le_of_not_lt hwanted hcap hover⟩

theorem isNaN_wait (hbase : policy.base.isNaN = true) :
    (policy.wait number random).isNaN = true := by
  have hwanted : (policy.base * Float.ofNat (2 ^ number) + random).isNaN = true :=
    Decimal.isNaN_add (Decimal.isNaN_mul hbase)
  have hover : ¬ policy.cap < policy.base * Float.ofNat (2 ^ number) + random := fun h => by
    rw [Decimal.isNaN_of_lt h] at hwanted
    contradiction
  unfold wait
  dsimp only
  rwa [if_neg hover]

theorem wait_within_iff (hbase : IsDelay policy.base) (hcap : IsDelay policy.cap)
    (hn : number < doubleExponents) (hr : 0 ≤ random) :
    (0 < policy.wait number random ∧ policy.wait number random ≤ policy.cap) ↔
      policy.base.isNaN = false ∧ policy.cap.isNaN = false := by
  constructor
  · rintro ⟨habove, hbelow⟩
    refine ⟨?_, Decimal.isNaN_of_le hbelow⟩
    by_contra hnan
    have hwait : (policy.wait number random).isNaN = true :=
      isNaN_wait (eq_true_of_ne_false hnan)
    rw [Decimal.isNaN_of_zero_lt habove] at hwait
    contradiction
  · rintro ⟨hbase', hcap'⟩
    exact wait_within (hbase.resolve_right (Bool.eq_false_iff.mp hbase'))
      (hcap.resolve_right (Bool.eq_false_iff.mp hcap')) hn hr

section Runs

variable {α σ : Type} {within : Float → Prop}

theorem draw_of_jitter {pacing : Pacing} (h : ∀ r ∈ pacing.jitter, 0 ≤ r ∧ r < 1) :
    0 ≤ pacing.draw := by
  rw [Pacing.draw]
  cases hj : pacing.jitter with
  | nil => decide
  | cons r rest => exact (h r (hj ▸ List.mem_cons_self)).1

/-- What holds of every pause that a request may be followed by holds of all pauses. -/
theorem forall_pauses_sendFrom (policy : RetryPolicy) (send : σ → Except Failure α × σ)
    (hpause : ∀ number random pause, 0 ≤ random →
      policy.pause number random = .ok pause → within pause)
    (more number : Nat) (state : σ) (pacing : Pacing)
    (hjitter : ∀ r ∈ pacing.jitter, 0 ≤ r ∧ r < 1) (hbefore : ∀ p ∈ pacing.pauses, within p) :
    ∀ p ∈ (policy.sendFrom send more number state pacing).2.2.pauses, within p := by
  induction more generalizing number state pacing with
  | zero =>
    rcases policy.sendFrom_cases send 0 number state pacing with
      ⟨answer, hsend, _⟩ | ⟨fewer, _, _, hmore, _⟩
    · rw [hsend]
      exact hbefore
    · contradiction
  | succ more ih =>
    rcases policy.sendFrom_cases send (more + 1) number state pacing with
      ⟨answer, hsend, _⟩ | ⟨fewer, failure, pause, hmore, _, hp, hsend⟩
    · rw [hsend]
      exact hbefore
    · obtain rfl := Nat.succ.inj hmore
      have hthis := hpause number pacing.draw pause (draw_of_jitter hjitter) hp
      rw [hsend]
      refine ih _ _ _ (fun r hr => hjitter r (List.mem_of_mem_tail hr)) fun p hmem => ?_
      rcases List.mem_append.mp hmem with hmem | hmem
      · exact hbefore p hmem
      · rw [List.mem_singleton.mp hmem]
        exact hthis

theorem pause_within_iff (policy : RetryPolicy) (hbase : IsDelay policy.base)
    (hcap : IsDelay policy.cap) {pause : Float} (hr : 0 ≤ random)
    (h : policy.pause number random = .ok pause) :
    (0 < pause ∧ pause ≤ policy.cap) ↔
      policy.base.isNaN = false ∧ policy.cap.isNaN = false := by
  rw [pause_eq] at h
  split at h
  · next hn =>
    obtain rfl := Except.ok.inj h
    exact wait_within_iff hbase hcap hn hr
  · contradiction

end Runs

end Model.RetryPolicy

namespace Settings

variable {environment : Environment} {settings : Settings} {origin : Origin}

/-- The three variables of an environment that say how a request is sent again, as they are read. -/
structure ReadFrom (settings : Settings) (environment : Environment) : Prop where
  limit : Decimal.readWhole (environment.valueOr "CODEGEN_RETRY_MAX_ATTEMPTS" "3") =
    .ok settings.retryLimit
  base : Decimal.readReal (environment.valueOr "CODEGEN_RETRY_BASE_DELAY" "1.0") =
    .ok settings.retryBase
  cap : Decimal.readReal (environment.valueOr "CODEGEN_RETRY_MAX_DELAY" "60.0") =
    .ok settings.retryCap

theorem readCount_int {n found : Int} (h : readCount origin (.int n) = .accepted found) :
    n = found :=
  Checked.accepted.inj (unless_refused_eq_accepted_iff.mp h).1

theorem readDelay_float {x found : Float} (h : readDelay origin (.float x) = .accepted found) :
    x = found :=
  Checked.accepted.inj (unless_refused_eq_accepted_iff.mp h).1

theorem accepted_of_find {reader : Reader α} {name : String} {fields : Fields} {input : Json}
    {fallback value : α} (hfind : (Name.same name).find? fields.entries = some (name, input))
    (h : Checking.optional (.same name) reader fallback fields = .accepted value) :
    reader fields.origin input = .accepted value := by
  rw [optional_of_find hfind] at h
  exact Checked.under_eq_accepted_iff.mp h

theorem fromEnvironment_cases (h : fromEnvironment environment = .ok settings) :
    settings.Resends ∧ settings.ReadFrom environment := by
  rw [fromEnvironment] at h
  cases hfields : fields environment with
  | error fault => simp [hfields] at h
  | ok entries =>
    rw [hfields] at h
    have hcheck := orReport_eq_ok_iff.mp (mapError_ok_iff.mp h)
    refine ⟨resends_of_check hcheck, ?_⟩
    have hretry := retryFields_of_check hcheck
    -- The seven numbers come first; the entries are a closed list around them.
    iterate 4 obtain ⟨_, _, hfields⟩ := bind_ok_iff.mp hfields
    obtain ⟨_, hfirst, hfields⟩ := bind_ok_iff.mp hfields
    obtain ⟨_, hsecond, hfields⟩ := bind_ok_iff.mp hfields
    obtain ⟨_, hthird, hfields⟩ := bind_ok_iff.mp hfields
    obtain rfl := Except.ok.inj hfields
    obtain ⟨limit, hlimit, rfl⟩ := map_ok_iff.mp hfirst
    obtain ⟨base, hbase, rfl⟩ := map_ok_iff.mp hsecond
    obtain ⟨cap, hcap, rfl⟩ := map_ok_iff.mp hthird
    obtain rfl := readCount_int (accepted_of_find rfl hretry.limit)
    obtain rfl := readDelay_float (accepted_of_find rfl hretry.base)
    obtain rfl := readDelay_float (accepted_of_find rfl hretry.cap)
    exact ⟨hlimit, hbase, hcap⟩

end Settings

namespace Model.RetryPolicy

/-- Settings from an environment send a request once at least, and have a base and a cap that are
above zero or no numbers. The pauses of every run lie above zero and at most at the cap exactly if
both are numbers. -/
theorem pauses_stay_within {α σ : Type} {environment : Environment} {settings : Settings}
    (h : Settings.fromEnvironment environment = .ok settings) (send : σ → Except Failure α × σ)
    (state : σ) (jitter : List Float) (hjitter : ∀ r ∈ jitter, 0 ≤ r ∧ r < 1) :
    settings.ReadFrom environment ∧
    (1 ≤ settings.retryLimit ∧ IsDelay settings.retryBase ∧ IsDelay settings.retryCap) ∧
    ∀ pause ∈ ((ofSettings settings).run send state ⟨jitter, [], []⟩).2.2.pauses,
      (0 < pause ∧ pause ≤ settings.retryCap) ↔
        settings.retryBase.isNaN = false ∧ settings.retryCap.isNaN = false := by
  obtain ⟨hresends, hread⟩ := Settings.fromEnvironment_cases h
  have hbase : IsDelay settings.retryBase := Decimal.not_le_zero_iff.mp hresends.base
  have hcap : IsDelay settings.retryCap := Decimal.not_le_zero_iff.mp hresends.cap
  refine ⟨hread, ⟨hresends.limit, hbase, hcap⟩, ?_⟩
  exact forall_pauses_sendFrom (ofSettings settings) send
    (fun _ _ _ hr hp => pause_within_iff (ofSettings settings) hbase hcap hr hp)
    _ 0 state _ hjitter (by simp)

/-- A cap that is no number is taken from the environment, and no pause of a connection that times
out is at most that cap. -/
theorem nan_caps_no_pause : ∃ settings,
    Settings.fromEnvironment [("CODEGEN_RETRY_MAX_DELAY", "nan")] = .ok settings ∧
    settings.retryCap.isNaN = true ∧
    let outcomes : Nat → Except Failure Json :=
      fun _ => .error (.foreign (.telling .connection "ReadTimeout" "t"))
    let pauses := ((ofSettings settings).run (tape outcomes) 0 ⟨[0.5], [], []⟩).2.2.pauses
    pauses.length = 2 ∧ ∀ pause ∈ pauses, ¬ (0 < pause ∧ pause ≤ settings.retryCap) := by
  obtain ⟨settings, hread, hlimit, hnan⟩ : ∃ settings,
      Settings.fromEnvironment [("CODEGEN_RETRY_MAX_DELAY", "nan")] = .ok settings ∧
      settings.retryLimit = 3 ∧ settings.retryCap.isNaN = true := ⟨_, rfl, rfl, rfl⟩
  refine ⟨settings, hread, hnan, ?_⟩
  intro outcomes pauses
  obtain ⟨_, _, hwithin⟩ := pauses_stay_within hread (tape outcomes) 0 [0.5] (by decide +kernel)
  obtain ⟨log, _, hwaits⟩ := (ofSettings settings).sendFrom_alternates outcomes 2 0
    (fun _ _ => rfl) (by decide) ⟨[0.5], [], []⟩
  have hrun : (ofSettings settings).run (tape outcomes) 0 ⟨[0.5], [], []⟩ =
      (ofSettings settings).sendFrom (tape outcomes) (2 + 0) 0 0 ⟨[0.5], [], []⟩ := by
    rw [run, ofSettings, hlimit]
    rfl
  have hpauses : pauses = (ofSettings settings).waits [0.5] 2 := by
    change ((ofSettings settings).run (tape outcomes) 0 ⟨[0.5], [], []⟩).2.2.pauses = _
    rw [hrun, hwaits]
    rfl
  refine ⟨by rw [hpauses, length_waits], fun pause hmem hbounds => ?_⟩
  have hnumber := ((hwithin pause hmem).mp hbounds).2
  rw [hnan] at hnumber
  contradiction

end Model.RetryPolicy

end Storyboard
