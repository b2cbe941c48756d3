import Storyboard.Proofs.Sharing

/-!
# Jobs side by side

Several runs share one store and take their steps in any order. The induction is on the
steps that are left. Each of them either adds one version, with the next number of its job,
or leaves the store as it is; and it keeps the outlook of every run. So no version is lost
or given twice, and each run comes to what it comes to on its own.
-/

namespace Storyboard

open Results (map_ok_iff)

namespace Store

variable {store : Store}

/-- The store with these artifacts added one after another. -/
def extendAll (store : Store) (added : List Artifact) : Store := added.foldl extend store

/-- Each artifact fits when it is added. -/
def Numbers (store : Store) : List Artifact → Prop
  | [] => True
  | artifact :: rest => store.Fits artifact ∧ (store.extend artifact).Numbers rest

theorem Numbers.history_extendAll {added : List Artifact} (h : store.Numbers added)
    (jobId : String) :
    (store.extendAll added).history jobId =
      (store.history jobId).map (· ++ added.filter fun artifact => artifact.jobId = jobId) := by
  induction added generalizing store with
  | nil => cases hs : store.history jobId <;> simp [extendAll, hs, Except.map]
  | cons artifact rest ih =>
    obtain ⟨hfits, hrest⟩ := h
    rw [extendAll, List.foldl_cons, ← extendAll, ih hrest]
    by_cases hj : artifact.jobId = jobId
    · subst hj
      rw [history_extend_self hfits]
      cases store.history artifact.jobId <;> simp [Except.map]
    · rw [history_extend_other hj, List.filter_cons_of_neg (by simpa using hj)]

theorem Numbers.codes_extendAll {added : List Artifact} (h : store.Numbers added) :
    (store.extendAll added).codes = store.codes ++ added.map CodeRow.ofArtifact := by
  induction added generalizing store with
  | nil => simp [extendAll]
  | cons artifact rest ih =>
    obtain ⟨hfits, hrest⟩ := h
    rw [extendAll, List.foldl_cons, ← extendAll, ih hrest, extend_codes hfits.next]
    simp

theorem extendAll_scripts (store : Store) (added : List Artifact) :
    (store.extendAll added).scripts = store.scripts := by
  induction added generalizing store with
  | nil => rfl
  | cons artifact rest ih => exact (ih (store.extend artifact)).trans (extend_scripts artifact)

/-- The new versions of each job are numbered on from those that were there. -/
theorem Numbers.consecutive {added : List Artifact} (h : store.Numbers added) (jobId : String) :
    (added.filter fun artifact => artifact.jobId = jobId).map Artifact.version =
      List.range' (store.nextVersion jobId)
        (added.filter fun artifact => artifact.jobId = jobId).length := by
  induction added generalizing store with
  | nil => simp
  | cons artifact rest ih =>
    obtain ⟨hfits, hrest⟩ := h
    by_cases hj : artifact.jobId = jobId
    · subst hj
      have hlater := ih hrest
      rw [nextVersion_extend_self hfits.next] at hlater
      rw [List.filter_cons_of_pos (by simp), List.map_cons, List.length_cons, List.range'_succ,
        hlater, hfits.next]
    · rw [List.filter_cons_of_neg (by simpa using hj), ih hrest, nextVersion_extend_other hj]

end Store

namespace Run

/-- The steps that a run takes at most until it has ended. -/
def left (run : Run) (settings : Settings) : Nat :=
  match run.stage with
  | .waiting => LoopState.start.left settings + 3
  | .attempting _ state _ => state.left settings + 2
  | .keeping _ _ => 1
  | .ended _ => 0

/-- What a run has come to. -/
def result? (run : Run) : Option (Except Failure Outcome) :=
  match run.stage with
  | .ended result => some result
  | _ => none

/-- The next step keeps the code of a run, if it may be kept. -/
def isKeeping (run : Run) : Bool :=
  match run.stage with
  | .keeping _ _ => true
  | _ => false

theorem left_of_waiting {run : Run} (h : run.stage = .waiting) (settings : Settings) :
    run.left settings = Plan.rounds settings + 2 := by
  have hrounds : LoopState.start.left settings + 1 = Plan.rounds settings := by
    simp only [LoopState.left, LoopState.start, Plan.rounds]
    omega
  rw [left, h]
  dsimp only
  omega

theorem result?_of_left {run : Run} {settings : Settings} (h : run.left settings = 0) :
    ∃ result, run.result? = some result := by
  cases hs : run.stage with
  | ended result => exact ⟨result, by rw [result?, hs]⟩
  | waiting | attempting | keeping => simp [left, hs] at h

/-- What does not change about a run while it and others take steps, `count` of them its own. -/
structure Continues (settings : Settings) (before after : Common) (count : Nat)
    (run run' : Run) : Prop where
  request : run'.request = run.request
  outlook : run'.outlook settings after = run.outlook settings before
  left : run'.left settings ≤ run.left settings - count
  result : ∀ result, run.result? = some result → run'.result? = some result

namespace Continues

variable {settings : Settings} {first second third : Common} {run run' run'' : Run}

theorem refl (settings : Settings) (common : Common) (run : Run) :
    Continues settings common common 0 run run := ⟨rfl, rfl, Nat.le_refl _, fun _ h => h⟩

theorem trans {count more : Nat} (h : Continues settings first second count run run')
    (h' : Continues settings second third more run' run'') :
    Continues settings first third (count + more) run run'' := by
  refine ⟨h'.request.trans h.request, h'.outlook.trans h.outlook, ?_, ?_⟩
  · have hle := h.left
    have hle' := h'.left
    omega
  · intro result hr
    exact h'.result result (h.result result hr)

/-- A run that rests is not affected by the step of another one. -/
theorem of_like (h : first.connection.Like second.connection) (settings : Settings) (run : Run) :
    Continues settings first second 0 run run :=
  ⟨rfl, (run.outlook_like h settings).symm, Nat.le_refl _, fun _ h => h⟩

end Continues

theorem step_left (settings : Settings) (common : Common) (run : Run) :
    (run.step settings common).1.left settings ≤ run.left settings - 1 := by
  have h := run.step_moves settings common
  generalize run.step settings common = next at h
  cases h with
  | unplanned hs _ | kept hs _ | refused hs _ => simp [left, goOn, hs]
  | planned hs _ => simp [left, goOn, hs]
  | @goesOn plan state next trace attempt line hs ha hn hphase =>
    subst hn
    obtain ⟨hd, hb⟩ := LoopState.afterAttempt_attempting_iff.mp hphase
    simp only [left, goOn, hs, LoopState.left, LoopState.afterAttempt_goesOn hd hb]
    omega
  | stops hs _ _ _ => simp [left, goOn, hs]
  | rests hs => simp [left, hs]

theorem step_continues (settings : Settings) (common : Common) (run : Run) :
    Continues settings common (run.step settings common).2 1 run (run.step settings common).1 := by
  refine ⟨?_, run.step_outlook settings common, run.step_left settings common, ?_⟩
  · have h := run.step_moves settings common
    generalize run.step settings common = next at h
    cases h <;> rfl
  · intro result hr
    have h := run.step_moves settings common
    generalize run.step settings common = next at h
    cases h with
    | rests _ => exact hr
    | unplanned hs _ | planned hs _ | goesOn hs _ _ _ | stops hs _ _ _ | refused hs _ | kept hs _ =>
      simp [result?, hs] at hr

/-- The step that keeps code ends its run: it adds one version or is refused. -/
theorem step_of_keeping {settings : Settings} {common : Common} {run : Run}
    (h : run.isKeeping = true) :
    (∃ outcome, (run.step settings common).1.result? = some (.ok outcome) ∧
      (run.step settings common).2.connection.store =
        common.connection.store.extend outcome.artifact ∧
      common.connection.store.Fits outcome.artifact) ∨
    ∃ failure, (run.step settings common).1.result? = some (.error failure) ∧
      (run.step settings common).2.connection.store = common.connection.store := by
  have hm := run.step_moves settings common
  generalize run.step settings common = next at hm
  cases hm with
  | @refused plan trace failure hs hc => exact Or.inr ⟨failure, rfl, rfl⟩
  | @kept plan trace outcome desk log hs hc =>
    obtain ⟨hconnection, hfits, _⟩ := Plan.close_ok hc
    exact Or.inl ⟨outcome, rfl, congrArg Connection.store hconnection, hfits⟩
  | unplanned hs _ | planned hs _ | goesOn hs _ _ _ | stops hs _ _ _ | rests hs =>
    simp [isKeeping, hs] at h

/-- Any other step leaves the store as it is, and brings no outcome. -/
theorem step_of_not_keeping {settings : Settings} {common : Common} {run : Run}
    (h : run.isKeeping = false) :
    (run.step settings common).2.connection = common.connection ∧
      ∀ outcome, (run.step settings common).1.result? = some (.ok outcome) →
        run.result? = some (.ok outcome) := by
  have hm := run.step_moves settings common
  generalize run.step settings common = next at hm
  cases hm with
  | refused hs _ | kept hs _ => simp [isKeeping, hs] at h
  | unplanned _ _ | planned _ _ | goesOn _ _ _ _ | stops _ _ _ _ =>
    refine ⟨rfl, fun outcome hr => ?_⟩
    simp [result?, goOn] at hr
  | rests _ => exact ⟨rfl, fun _ hr => hr⟩

end Run

/-- Runs that share a store and the clients of the models. -/
structure Crew where
  common : Common
  runs : List Run

namespace Crew

/-- Runs that wait, each with a request and with the replies, the random parts and the reading of
the clock that are its own. -/
def opening (common : Common) (tickets : List (Request × Model.Wire × Model.Pacing × Moment)) :
    Crew :=
  ⟨common, tickets.map fun (request, wire, pacing, now) => ⟨request, wire, pacing, now, .waiting⟩⟩

/-- The store that all runs share. -/
def store (crew : Crew) : Store := crew.common.connection.store

/-- What the run with a number has come to. -/
def result? (crew : Crew) (number : Nat) : Option (Except Failure Outcome) :=
  crew.runs[number]?.bind Run.result?

/-- The version that the run with a number has added. -/
def artifact? (crew : Crew) (number : Nat) : Option Artifact :=
  match crew.result? number with
  | some (.ok outcome) => some outcome.artifact
  | _ => none

/-- The run with a number is about to keep its code. -/
def keeps (crew : Crew) (number : Nat) : Bool := crew.runs[number]?.any Run.isKeeping

/-- One step of the run with a number. -/
def step (settings : Settings) (crew : Crew) (number : Nat) : Crew :=
  match crew.runs[number]? with
  | none => crew
  | some run =>
    ⟨(run.step settings crew.common).2, crew.runs.set number (run.step settings crew.common).1⟩

/-- Steps of the runs with these numbers, in this order. -/
def after (settings : Settings) (crew : Crew) (schedule : List Nat) : Crew :=
  schedule.foldl (step settings) crew

/-- The runs in the order of the steps that keep their code. -/
def keepers (settings : Settings) (crew : Crew) : List Nat → List Nat
  | [] => []
  | number :: rest =>
    let later := (crew.step settings number).keepers settings rest
    if crew.keeps number then number :: later else later

variable {settings : Settings} {crew : Crew} {number i : Nat} {run : Run}

theorem after_cons (schedule : List Nat) :
    crew.after settings (number :: schedule) =
      (crew.step settings number).after settings schedule := rfl

theorem step_of_some (h : crew.runs[number]? = some run) :
    crew.step settings number = ⟨(run.step settings crew.common).2,
      crew.runs.set number (run.step settings crew.common).1⟩ := by
  rw [step, h]

theorem step_run_self (h : crew.runs[number]? = some run) :
    (crew.step settings number).runs[number]? = some (run.step settings crew.common).1 := by
  obtain ⟨hlt, _⟩ := List.getElem?_eq_some_iff.mp h
  rw [step_of_some h]
  simp [hlt]

theorem step_run_other (h : number ≠ i) :
    (crew.step settings number).runs[i]? = crew.runs[i]? := by
  rw [step]
  split
  · rfl
  · simp [List.getElem?_set_ne h]

/-- A step of one run continues every run. -/
theorem step_continues (settings : Settings) (h : crew.runs[i]? = some run) (number : Nat) :
    ∃ run', (crew.step settings number).runs[i]? = some run' ∧
      run.Continues settings crew.common (crew.step settings number).common
        ([number].count i) run' := by
  by_cases hi : number = i
  · subst hi
    refine ⟨_, step_run_self h, ?_⟩
    rw [step_of_some h, List.count_singleton_self]
    exact run.step_continues settings crew.common
  · refine ⟨run, by rw [step_run_other hi, h], ?_⟩
    rw [List.count_singleton, if_neg (by simpa using hi)]
    cases hn : crew.runs[number]? with
    | none =>
      rw [step, hn]
      exact .refl _ _ _
    | some other =>
      rw [step_of_some hn]
      exact .of_like (other.step_connection settings crew.common) settings run

/-- Any steps continue every run, by as many of its own steps as there are among them. -/
theorem after_continues (settings : Settings) (h : crew.runs[i]? = some run)
    (schedule : List Nat) :
    ∃ run', (crew.after settings schedule).runs[i]? = some run' ∧
      run.Continues settings crew.common (crew.after settings schedule).common
        (schedule.count i) run' := by
  induction schedule generalizing crew run with
  | nil => exact ⟨run, h, .refl _ _ _⟩
  | cons number rest ih =>
    obtain ⟨between, hbetween, hfirst⟩ := step_continues settings h number
    obtain ⟨run', hrun', hrest⟩ := ih hbetween
    have hcount : (number :: rest).count i = [number].count i + rest.count i := by
      rw [← List.count_append, List.singleton_append]
    refine ⟨run', hrun', ?_⟩
    rw [hcount]
    exact hfirst.trans hrest

/-- A run that has ended stays as it ended. -/
theorem result?_after {result : Except Failure Outcome} (h : crew.result? i = some result)
    (schedule : List Nat) : (crew.after settings schedule).result? i = some result := by
  obtain ⟨run, hrun, hresult⟩ := Option.bind_eq_some_iff.mp h
  obtain ⟨run', hrun', hcontinues⟩ := after_continues settings hrun schedule
  exact Option.bind_eq_some_iff.mpr ⟨run', hrun', hcontinues.result result hresult⟩

theorem result?_step {result : Except Failure Outcome} (h : crew.result? i = some result)
    (number : Nat) : (crew.step settings number).result? i = some result :=
  result?_after h [number]

theorem exists_run_of_keeps (h : crew.keeps number = true) :
    ∃ run, crew.runs[number]? = some run ∧ run.isKeeping = true := by
  rw [keeps] at h
  cases hn : crew.runs[number]? with
  | none => simp [hn] at h
  | some run => exact ⟨run, rfl, by simpa [hn] using h⟩

theorem result?_of_keeps (h : crew.keeps number = true) : crew.result? number = none := by
  obtain ⟨run, hrun, hkeeping⟩ := exists_run_of_keeps h
  rw [result?, hrun, Option.bind_some]
  cases hs : run.stage with
  | keeping _ _ => rw [Run.result?, hs]
  | waiting | attempting | ended => simp [Run.isKeeping, hs] at hkeeping

/-- A step that keeps code ends its run: it adds one version or is refused. -/
theorem step_of_keeps (h : crew.keeps number = true) :
    (∃ outcome, (crew.step settings number).result? number = some (.ok outcome) ∧
      (crew.step settings number).store = crew.store.extend outcome.artifact ∧
      crew.store.Fits outcome.artifact) ∨
    ∃ failure, (crew.step settings number).result? number = some (.error failure) ∧
      (crew.step settings number).store = crew.store := by
  obtain ⟨run, hrun, hkeeping⟩ := exists_run_of_keeps h
  rw [result?, step_run_self hrun, step_of_some hrun]
  exact Run.step_of_keeping hkeeping

/-- Any other step leaves the store as it is, and no run comes to an outcome by it. -/
theorem step_of_not_keeps (h : crew.keeps number = false) :
    (crew.step settings number).store = crew.store ∧
      ∀ i outcome, (crew.step settings number).result? i = some (.ok outcome) →
        crew.result? i = some (.ok outcome) := by
  cases hn : crew.runs[number]? with
  | none =>
    rw [step, hn]
    exact ⟨rfl, fun _ _ hr => hr⟩
  | some run =>
    have hkeeping : run.isKeeping = false := by simpa [keeps, hn] using h
    obtain ⟨hconnection, hresult⟩ := Run.step_of_not_keeping hkeeping
    refine ⟨by rw [step_of_some hn, store, hconnection, store], fun i outcome hr => ?_⟩
    by_cases hi : number = i
    · subst hi
      rw [result?, step_run_self hn] at hr
      rw [result?, hn]
      exact hresult outcome hr
    · rwa [result?, step_run_other hi] at hr

/-- The versions that were added, in the order of the steps that added them. -/
def added (settings : Settings) (crew : Crew) (schedule : List Nat) : List Artifact :=
  (crew.keepers settings schedule).filterMap (crew.after settings schedule).artifact?

/-- Those of them that belong to a job. -/
def addedTo (settings : Settings) (crew : Crew) (schedule : List Nat) (jobId : String) :
    List Artifact :=
  (crew.added settings schedule).filter fun artifact => artifact.jobId = jobId

/-- Every version that the steps add fits where it is added, and no other is added. -/
theorem store_after (settings : Settings) (crew : Crew) (schedule : List Nat) :
    (crew.after settings schedule).store = crew.store.extendAll (crew.added settings schedule) ∧
      crew.store.Numbers (crew.added settings schedule) := by
  induction schedule generalizing crew with
  | nil => exact ⟨rfl, trivial⟩
  | cons number rest ih =>
    obtain ⟨hstore, hnumbers⟩ := ih (crew.step settings number)
    cases hk : crew.keeps number with
    | false =>
      have hadded : crew.added settings (number :: rest) =
          (crew.step settings number).added settings rest := by
        simp only [added, keepers, hk, after_cons]
        rfl
      rw [hadded, ← (step_of_not_keeps hk).1]
      exact ⟨hstore, hnumbers⟩
    | true =>
      have hadded : crew.added settings (number :: rest) =
          (number :: (crew.step settings number).keepers settings rest).filterMap
            ((crew.step settings number).after settings rest).artifact? := by
        simp only [added, keepers, hk, after_cons]
        rfl
      rcases step_of_keeps hk with ⟨outcome, hresult, hextend, hfits⟩ | ⟨failure, hresult, hsame⟩
      · have hartifact : ((crew.step settings number).after settings rest).artifact? number =
            some outcome.artifact := by
          rw [artifact?, result?_after hresult]
        rw [hadded, List.filterMap_cons_some hartifact]
        rw [hextend] at hstore hnumbers
        exact ⟨hstore, hfits, hnumbers⟩
      · have hartifact : ((crew.step settings number).after settings rest).artifact? number =
            none := by
          rw [artifact?, result?_after hresult]
        rw [hadded, List.filterMap_cons_none hartifact]
        rw [hsame] at hstore hnumbers
        exact ⟨hstore, hnumbers⟩

theorem result?_of_mem_keepers {schedule : List Nat} (h : i ∈ crew.keepers settings schedule) :
    crew.result? i = none := by
  induction schedule generalizing crew with
  | nil => simp [keepers] at h
  | cons number rest ih =>
    have hlater (hm : i ∈ (crew.step settings number).keepers settings rest) :
        crew.result? i = none := by
      have hnone := ih hm
      by_contra hsome
      obtain ⟨result, hresult⟩ := Option.ne_none_iff_exists'.mp hsome
      rw [result?_step hresult] at hnone
      contradiction
    rw [keepers] at h
    cases hk : crew.keeps number with
    | false =>
      rw [hk] at h
      exact hlater h
    | true =>
      rw [hk] at h
      rcases List.mem_cons.mp h with rfl | hm
      · exact result?_of_keeps hk
      · exact hlater hm

/-- No run keeps code twice. -/
theorem nodup_keepers (crew : Crew) (schedule : List Nat) :
    (crew.keepers settings schedule).Nodup := by
  induction schedule generalizing crew with
  | nil => exact List.nodup_nil
  | cons number rest ih =>
    rw [keepers]
    cases hk : crew.keeps number with
    | false => exact ih _
    | true =>
      refine List.nodup_cons.mpr ⟨fun hm => ?_, ih _⟩
      have hnone := result?_of_mem_keepers hm
      rcases step_of_keeps hk with ⟨outcome, hresult, _⟩ | ⟨failure, hresult, _⟩
      · rw [hresult] at hnone
        contradiction
      · rw [hresult] at hnone
        contradiction

/-- Every run that comes to an outcome has kept its code. -/
theorem mem_keepers {schedule : List Nat} {outcome : Outcome} (h : crew.result? i = none)
    (hafter : (crew.after settings schedule).result? i = some (.ok outcome)) :
    i ∈ crew.keepers settings schedule := by
  induction schedule generalizing crew with
  | nil =>
    change crew.result? i = _ at hafter
    rw [h] at hafter
    contradiction
  | cons number rest ih =>
    rw [after_cons] at hafter
    rw [keepers]
    cases hnext : (crew.step settings number).result? i with
    | none =>
      have hlater := ih hnext hafter
      cases crew.keeps number with
      | false => exact hlater
      | true => exact List.mem_cons_of_mem _ hlater
    | some result =>
      obtain rfl := Option.some.inj ((result?_after hnext rest).symm.trans hafter)
      cases hk : crew.keeps number with
      | false =>
        have hbefore := (step_of_not_keeps hk).2 i outcome hnext
        rw [h] at hbefore
        contradiction
      | true =>
        by_cases hi : number = i
        · subst hi
          exact List.mem_cons_self
        · rw [result?, step_run_other hi, ← result?, h] at hnext
          contradiction

theorem keepers_sublist (crew : Crew) (schedule : List Nat) :
    (crew.keepers settings schedule).Sublist schedule := by
  induction schedule generalizing crew with
  | nil => exact List.Sublist.slnil
  | cons number rest ih =>
    rw [keepers]
    cases crew.keeps number with
    | false => exact (ih _).cons number
    | true => exact (ih _).cons_cons number

end Crew

theorem generate_jobId {settings : Settings} {request : Request} {desk : Desk}
    {line : Model.Line} {outcome : Outcome}
    (h : (generate settings request desk line).1 = .ok outcome) :
    outcome.artifact.jobId = request.jobId := by
  cases hg : generate settings request desk line with
  | mk result rest =>
    rw [hg] at h
    subst h
    obtain ⟨_, _, _, _, _, _, _, _, _, _, _, hkeep, _⟩ := generate_ok hg
    exact (Desk.keep_ok hkeep).1

theorem Outcome.jobId_of_bare {first second : Outcome} (h : first.bare = second.bare) :
    first.artifact.jobId = second.artifact.jobId := by
  have hjob : first.bare.artifact.jobId = second.bare.artifact.jobId := by rw [h]
  exact hjob

/-- What becomes of runs that wait at first when they take steps in this order. -/
structure Settles (settings : Settings) (start : Crew) (schedule : List Nat) : Prop where
  /-- A run ends when it is given as many steps as a job takes. -/
  ends : ∀ number < start.runs.length, Plan.rounds settings + 2 ≤ schedule.count number →
    ∃ result, (start.after settings schedule).result? number = some result
  /-- It ends as the job does on its own at the same reading of the clock, but for the number of
  its version. -/
  alone : ∀ number run result, start.runs[number]? = some run →
    (start.after settings schedule).result? number = some result →
    result.map Outcome.bare =
      (generate settings run.request (start.common.desk run.now)
        (run.line start.common)).1.map Outcome.bare
  asked : ∀ number run result, start.runs[number]? = some run →
    (start.after settings schedule).result? number = some result →
    (start.after settings schedule).runs[number]?.map Run.wire =
      some (generate settings run.request (start.common.desk run.now)
        (run.line start.common)).2.2.wire
  job : ∀ number run outcome, start.runs[number]? = some run →
    (start.after settings schedule).result? number = some (.ok outcome) →
    outcome.artifact.jobId = run.request.jobId
  order : (start.keepers settings schedule).Sublist schedule
  /-- The runs that came to an outcome are among those that kept code, each of them once. -/
  once : (start.keepers settings schedule).Nodup
  returned : ∀ number outcome,
    (start.after settings schedule).result? number = some (.ok outcome) →
    number ∈ start.keepers settings schedule
  scripts : (start.after settings schedule).store.scripts = start.store.scripts
  rows : (start.after settings schedule).store.codes =
    start.store.codes ++ (start.added settings schedule).map CodeRow.ofArtifact
  history : ∀ jobId, (start.after settings schedule).store.history jobId =
    (start.store.history jobId).map (· ++ start.addedTo settings schedule jobId)
  consecutive : ∀ jobId, (start.addedTo settings schedule jobId).map Artifact.version =
    List.range' (start.store.nextVersion jobId) (start.addedTo settings schedule jobId).length

namespace Crew

variable {settings : Settings} {common : Common} {run : Run} {number : Nat}
  {tickets : List (Request × Model.Wire × Model.Pacing × Moment)}

theorem opening_waiting (h : (opening common tickets).runs[number]? = some run) :
    run.stage = .waiting := by
  obtain ⟨ticket, _, rfl⟩ := List.mem_map.mp (List.mem_of_getElem? h)
  rfl

theorem opening_result? (number : Nat) : (opening common tickets).result? number = none := by
  rw [result?]
  cases hrun : (opening common tickets).runs[number]? with
  | none => rfl
  | some run => rw [Option.bind_some, Run.result?, opening_waiting hrun]

/-- A run that waited at first has ended as the job does on its own. -/
theorem outlook_of_result (h : (opening common tickets).runs[number]? = some run)
    (schedule : List Nat) {result : Except Failure Outcome}
    (hr : ((opening common tickets).after settings schedule).result? number = some result) :
    result.map Outcome.bare =
        (generate settings run.request (common.desk run.now) (run.line common)).1.map
          Outcome.bare ∧
      ((opening common tickets).after settings schedule).runs[number]?.map Run.wire =
        some (generate settings run.request (common.desk run.now) (run.line common)).2.2.wire := by
  obtain ⟨run', hrun', hcontinues⟩ := after_continues settings h schedule
  have hended : run'.stage = .ended result := by
    rw [result?, hrun', Option.bind_some, Run.result?] at hr
    cases hs : run'.stage with
    | ended found => simpa [hs] using hr
    | waiting | attempting | keeping => simp [hs] at hr
  have houtlook := hcontinues.outlook
  rw [Run.outlook_waiting (opening_waiting h), Run.outlook, hended] at houtlook
  obtain ⟨hresult, hwire⟩ := Prod.mk.inj houtlook
  exact ⟨hresult, by rw [hrun', Option.map_some, hwire]; rfl⟩

theorem ends_of_count (hlt : number < (opening common tickets).runs.length)
    {schedule : List Nat} (h : Plan.rounds settings + 2 ≤ schedule.count number) :
    ∃ result, ((opening common tickets).after settings schedule).result? number = some result := by
  have hrun := List.getElem?_eq_getElem hlt
  obtain ⟨run', hrun', hcontinues⟩ := after_continues settings hrun schedule
  have hle := hcontinues.left
  rw [Run.left_of_waiting (opening_waiting hrun)] at hle
  have hleft : run'.left settings = 0 := by omega
  obtain ⟨result, hresult⟩ := Run.result?_of_left hleft
  exact ⟨result, Option.bind_eq_some_iff.mpr ⟨run', hrun', hresult⟩⟩

theorem jobId_of_result (h : (opening common tickets).runs[number]? = some run)
    {schedule : List Nat} {outcome : Outcome}
    (hr : ((opening common tickets).after settings schedule).result? number =
      some (.ok outcome)) : outcome.artifact.jobId = run.request.jobId := by
  obtain ⟨found, hfound, hbare⟩ := map_ok_iff.mp (outlook_of_result h schedule hr).1.symm
  rw [← Outcome.jobId_of_bare hbare, generate_jobId hfound]

end Crew

/-- Runs that share a store take their steps in any order: no version is lost or given twice,
and each run comes to what it comes to on its own. -/
theorem interleaved_runs_settle (settings : Settings) (common : Common)
    (tickets : List (Request × Model.Wire × Model.Pacing × Moment)) (schedule : List Nat) :
    Settles settings (.opening common tickets) schedule where
  ends _ hlt hcount := Crew.ends_of_count hlt hcount
  alone _ _ _ hrun hr := (Crew.outlook_of_result hrun schedule hr).1
  asked _ _ _ hrun hr := (Crew.outlook_of_result hrun schedule hr).2
  job _ _ _ hrun hr := Crew.jobId_of_result hrun hr
  order := Crew.keepers_sublist _ schedule
  once := Crew.nodup_keepers _ schedule
  returned number _ hr := Crew.mem_keepers (Crew.opening_result? number) hr
  scripts := by
    rw [(Crew.store_after settings _ schedule).1, Store.extendAll_scripts]
  rows := by
    obtain ⟨hstore, hnumbers⟩ := Crew.store_after settings (.opening common tickets) schedule
    rw [hstore, hnumbers.codes_extendAll]
  history jobId := by
    obtain ⟨hstore, hnumbers⟩ := Crew.store_after settings (.opening common tickets) schedule
    rw [hstore, hnumbers.history_extendAll]
    rfl
  consecutive := (Crew.store_after settings _ schedule).2.consecutive

end Storyboard
