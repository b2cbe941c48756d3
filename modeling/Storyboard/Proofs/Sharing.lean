import Storyboard.Proofs.Course
import Storyboard.Proofs.Likeness

/-!
# Jobs in steps

A job looks up its script, makes one attempt after another, and keeps its code. Between
these steps other jobs may use the same store. What a job comes to when it is left alone
from some step on, its outlook, does not change with any step, its own or another's, as
long as the scripts stay. Only the number of its version is taken at the last step.
-/

namespace Storyboard

open Plan (Trace)
open Results (map_ok_iff)

/-- How far a run of a job has come. -/
inductive Stage where
  /-- Before the script is looked up. -/
  | waiting
  /-- Before an attempt, with those made so far. -/
  | attempting (plan : Plan) (state : LoopState) (trace : Trace)
  /-- Before the code is kept. -/
  | keeping (plan : Plan) (trace : Trace)
  | ended (result : Except Failure Outcome)

/-- A run of a job. The replies, the random parts and what the clock reads when its code is there
are its own. -/
structure Run where
  request : Request
  wire : Model.Wire
  pacing : Model.Pacing
  now : Moment
  stage : Stage

/-- What runs share. -/
structure Common where
  connection : Connection
  clients : List String

/-- The desk at which a job works that keeps its code. -/
def Common.desk (common : Common) (now : Moment) : Desk := ⟨common.connection, true, now⟩

/-- Looks up the script of a request and plans its job. -/
def Desk.plan (desk : Desk) (settings : Settings) (request : Request) :
    Except Failure Plan × Log :=
  match settings.requireKey.bind fun _ => desk.script request with
  | .error failure => (.error failure, [])
  | .ok script => ((Plan.make request script).1.mapError .number, (Plan.make request script).2)

/-- Chooses and keeps the code of a job whose attempts are over. -/
def Plan.close (plan : Plan) (desk : Desk) (trace : Trace) :
    Except Failure (Outcome × Desk × Log) :=
  match plan.chooseCode trace with
  | .error failure => .error failure
  | .ok (code, usedFallback) =>
    (desk.keep plan.request.jobId code usedFallback).map fun kept =>
      (⟨kept.1, trace.attempts, trace.phases⟩, kept.2)

/-- The trace with a later one at its end. -/
def Plan.Trace.join (trace later : Trace) : Trace :=
  ⟨trace.attempts ++ later.attempts, trace.states ++ later.states⟩

theorem Plan.Trace.nil_join (trace : Trace) : Trace.join ⟨[], []⟩ trace = trace := rfl

theorem Plan.Trace.join_after (trace later : Trace) (attempt : Attempt) (state : LoopState) :
    (trace.join (.one attempt state)).join later = trace.join (later.after attempt state) := by
  simp [join, Trace.one, Trace.after]

namespace Run

/-- The line of a run, with the clients that all runs share. -/
def line (run : Run) (common : Common) : Model.Line := ⟨run.wire, run.pacing, common.clients⟩

/-- The run at another stage, with what it left on its line. -/
def goOn (run : Run) (line : Model.Line) (stage : Stage) : Run :=
  { run with wire := line.wire, pacing := line.pacing, stage }

/-- One step of a run: the look-up of its script, an attempt, or the keeping of its code. -/
def step (settings : Settings) (common : Common) (run : Run) : Run × Common :=
  match run.stage with
  | .waiting =>
    match (common.desk run.now).plan settings run.request with
    | (.error failure, log) =>
      (run.goOn ((run.line common).note log) (.ended (.error failure)), common)
    | (.ok plan, log) =>
      (run.goOn ((run.line common).note log) (.attempting plan .start ⟨[], []⟩), common)
  | .attempting plan state trace =>
    let (attempt, line) := plan.runAttempt settings state (run.line common)
    let next := state.afterAttempt attempt settings.maxAttempts
    let trace := trace.join (.one attempt next)
    let stage := if next.phase = .attempting then .attempting plan next trace
      else .keeping plan trace
    (run.goOn line stage, { common with clients := line.clients })
  | .keeping plan trace =>
    let line := (run.line common).note (plan.finishLog trace)
    match plan.close (common.desk run.now) trace with
    | .error failure => (run.goOn line (.ended (.error failure)), common)
    | .ok (outcome, desk, log) =>
      (run.goOn (line.note log) (.ended (.ok outcome)), { common with connection := desk.connection })
  | .ended _ => (run, common)

end Run

/-- Each step that a run can make, with what it finds. -/
inductive Run.Moves (settings : Settings) (common : Common) (run : Run) : Run × Common → Prop
  | unplanned {failure : Failure} {log : Log} (hs : run.stage = .waiting)
      (hp : (common.desk run.now).plan settings run.request = (.error failure, log)) :
      Moves settings common run
        (run.goOn ((run.line common).note log) (.ended (.error failure)), common)
  | planned {plan : Plan} {log : Log} (hs : run.stage = .waiting)
      (hp : (common.desk run.now).plan settings run.request = (.ok plan, log)) :
      Moves settings common run
        (run.goOn ((run.line common).note log) (.attempting plan .start ⟨[], []⟩), common)
  | goesOn {plan : Plan} {state next : LoopState} {trace : Trace} {attempt : Attempt}
      {line : Model.Line} (hs : run.stage = .attempting plan state trace)
      (ha : plan.runAttempt settings state (run.line common) = (attempt, line))
      (hn : state.afterAttempt attempt settings.maxAttempts = next)
      (hphase : next.phase = .attempting) :
      Moves settings common run
        (run.goOn line (.attempting plan next (trace.join (.one attempt next))),
          { common with clients := line.clients })
  | stops {plan : Plan} {state next : LoopState} {trace : Trace} {attempt : Attempt}
      {line : Model.Line} (hs : run.stage = .attempting plan state trace)
      (ha : plan.runAttempt settings state (run.line common) = (attempt, line))
      (hn : state.afterAttempt attempt settings.maxAttempts = next)
      (hphase : next.phase ≠ .attempting) :
      Moves settings common run (run.goOn line (.keeping plan (trace.join (.one attempt next))),
        { common with clients := line.clients })
  | refused {plan : Plan} {trace : Trace} {failure : Failure} (hs : run.stage = .keeping plan trace)
      (hc : plan.close (common.desk run.now) trace = .error failure) :
      Moves settings common run (run.goOn ((run.line common).note (plan.finishLog trace))
        (.ended (.error failure)), common)
  | kept {plan : Plan} {trace : Trace} {outcome : Outcome} {desk : Desk} {log : Log}
      (hs : run.stage = .keeping plan trace)
      (hc : plan.close (common.desk run.now) trace = .ok (outcome, desk, log)) :
      Moves settings common run
        (run.goOn (((run.line common).note (plan.finishLog trace)).note log) (.ended (.ok outcome)),
          { common with connection := desk.connection })
  | rests {result : Except Failure Outcome} (hs : run.stage = .ended result) :
      Moves settings common run (run, common)

theorem Run.step_moves (settings : Settings) (common : Common) (run : Run) :
    run.Moves settings common (run.step settings common) := by
  unfold step
  cases hs : run.stage with
  | waiting =>
    dsimp only
    split
    · next hp => exact .unplanned hs hp
    · next hp => exact .planned hs hp
  | attempting plan state trace =>
    dsimp only
    split
    · next hphase => exact .goesOn hs rfl rfl hphase
    · next hphase => exact .stops hs rfl rfl hphase
  | keeping plan trace =>
    dsimp only
    split
    · next hc => exact .refused hs hc
    · next hc => exact .kept hs hc
  | ended result => exact .rests hs

/-- An outcome without the number of its version. -/
def Outcome.bare (outcome : Outcome) : Outcome :=
  { outcome with artifact := { outcome.artifact with version := 0 } }

/-- Connections to stores with the same scripts, both open or both closed. -/
structure Connection.Like (first second : Connection) : Prop where
  isOpen : first.isOpen = second.isOpen
  scripts : first.store.scripts = second.store.scripts

namespace Connection.Like

variable {first second : Connection}

theorem refl (connection : Connection) : connection.Like connection := ⟨rfl, rfl⟩

theorem extend (connection : Connection) (artifact : Artifact) :
    connection.Like (connection.holding (connection.store.extend artifact)) :=
  ⟨rfl, (Store.extend_scripts artifact).symm⟩

end Connection.Like

section Desk

variable {first second : Connection} {settings : Settings} {request : Request}

theorem Desk.script_like (h : first.Like second) (keeps keeps' : Bool) (now now' : Moment)
    (request : Request) :
    Desk.script ⟨first, keeps, now⟩ request = Desk.script ⟨second, keeps', now'⟩ request := by
  have hlookup : first.store.scriptOf? (.text request.scriptId) =
      second.store.scriptOf? (.text request.scriptId) :=
    Store.scriptOf?_congr (by rw [h.scripts])
  simp only [Desk.script, Connection.access, h.isOpen]
  cases second.isOpen with
  | false => rfl
  | true =>
    change (first.store.scriptOf? _).bind _ = (second.store.scriptOf? _).bind _
    rw [hlookup]

theorem Desk.plan_like (h : first.Like second) (now : Moment) (settings : Settings)
    (request : Request) :
    Desk.plan ⟨first, true, now⟩ settings request =
      Desk.plan ⟨second, true, now⟩ settings request := by
  rw [Desk.plan, Desk.plan, Desk.script_like h true true now now]

/-- What a job comes to when its attempts are over, but for the number of its version. -/
def Plan.upshot (plan : Plan) (connection : Connection) (now : Moment) (trace : Trace) :
    Except Failure Outcome :=
  (plan.close ⟨connection, true, now⟩ trace).map fun closed => closed.1.bare

theorem Plan.upshot_like (h : first.Like second) (plan : Plan) (now : Moment) (trace : Trace) :
    plan.upshot first now trace = plan.upshot second now trace := by
  rw [upshot, upshot, close, close]
  cases plan.chooseCode trace with
  | error fault => rfl
  | ok chosen =>
    obtain ⟨code, usedFallback⟩ := chosen
    dsimp only
    rw [Desk.keep_of_keeps rfl, Desk.keep_of_keeps rfl]
    simp only [Connection.access, h.isOpen, Store.update_eq_approve]
    cases second.isOpen with
    | false => rfl
    | true =>
      cases Store.approve plan.request.jobId code <;> rfl

end Desk

theorem generate_eq_plan (settings : Settings) (request : Request) (desk : Desk)
    (line : Model.Line) :
    generate settings request desk line =
      match desk.plan settings request with
      | (.error failure, log) => (.error failure, desk, line.note log)
      | (.ok plan, log) => plan.finish settings desk (line.note log) := by
  rw [generate, Desk.plan]
  cases settings.requireKey.bind fun _ => desk.script request with
  | error failure => exact congrArg (fun line => (_, desk, line)) line.note_nil.symm
  | ok script =>
    dsimp only
    cases hmake : Plan.make request script with
    | mk plan log => cases plan <;> rfl

theorem Plan.finish_eq_close (plan : Plan) (settings : Settings) (desk : Desk)
    (line : Model.Line) :
    (plan.finish settings desk line).1 =
        (plan.close desk (plan.run settings line).1).map Prod.fst ∧
      (plan.finish settings desk line).2.2.wire = (plan.run settings line).2.wire := by
  refine ⟨?_, plan.finish_wire desk⟩
  rw [finish, close]
  dsimp only
  cases plan.chooseCode (plan.run settings line).1 with
  | error fault => rfl
  | ok chosen =>
    obtain ⟨code, usedFallback⟩ := chosen
    dsimp only
    cases desk.keep plan.request.jobId code usedFallback <;> rfl

/-- The number of attempts that may follow the one at hand. -/
def LoopState.left (state : LoopState) (settings : Settings) : Nat :=
  (settings.maxAttempts - 1 - state.attempt).toNat

theorem Plan.run_eq_runFrom (plan : Plan) (settings : Settings) (line : Model.Line) :
    plan.run settings line = plan.runFrom settings (LoopState.start.left settings) .start line := by
  have hleft : settings.maxAttempts.toNat - 1 = LoopState.start.left settings := by
    simp only [LoopState.left, LoopState.start]
    omega
  rw [run, hleft]

/-- What the attempts from a state on come to, after those made so far. -/
def Plan.ahead (plan : Plan) (settings : Settings) (connection : Connection) (now : Moment)
    (trace : Trace) (state : LoopState) (line : Model.Line) :
    Except Failure Outcome × Model.Wire :=
  let rest := plan.runFrom settings (state.left settings) state line
  (plan.upshot connection now (trace.join rest.1), rest.2.wire)

/-- What a run comes to when no other moves from now on, but for the number of its version,
and what it leaves on its wire. -/
def Run.outlook (settings : Settings) (common : Common) (run : Run) :
    Except Failure Outcome × Model.Wire :=
  match run.stage with
  | .waiting =>
    match ((common.desk run.now).plan settings run.request).1 with
    | .error failure => (.error failure, run.wire)
    | .ok plan => plan.ahead settings common.connection run.now ⟨[], []⟩ .start (run.line common)
  | .attempting plan state trace =>
    plan.ahead settings common.connection run.now trace state (run.line common)
  | .keeping plan trace => (plan.upshot common.connection run.now trace, run.wire)
  | .ended result => (result.map Outcome.bare, run.wire)

section Outlook

variable {settings : Settings} {first second : Common} {connection : Connection} {now : Moment}

theorem Plan.ahead_like {connection' : Connection} (h : connection.Like connection')
    {line line' : Model.Line} (hl : line.Like line') (plan : Plan) (settings : Settings)
    (now : Moment) (trace : Trace) (state : LoopState) :
    plan.ahead settings connection now trace state line =
      plan.ahead settings connection' now trace state line' := by
  have hrest := plan.runFrom_like hl settings (state.left settings) state
  simp only [ahead]
  rw [hrest.result, upshot_like h, hrest.line.wire]

/-- The outlook of a run does not depend on the versions in the store or on the clients. -/
theorem Run.outlook_like (h : first.connection.Like second.connection) (settings : Settings)
    (run : Run) : run.outlook settings first = run.outlook settings second := by
  have hline : (run.line first).Like (run.line second) := ⟨rfl, rfl, rfl⟩
  unfold outlook
  split
  · rw [Common.desk, Common.desk, Desk.plan_like h]
    split
    · rfl
    · exact Plan.ahead_like h hline _ _ _ _ _
  · exact Plan.ahead_like h hline _ _ _ _ _
  · rw [Plan.upshot_like h]
  · rfl

/-- A run that waits comes to what the job comes to on its own. -/
theorem Run.outlook_waiting {run : Run} (h : run.stage = .waiting) (settings : Settings)
    (common : Common) :
    run.outlook settings common =
      ((generate settings run.request (common.desk run.now) (run.line common)).1.map Outcome.bare,
        (generate settings run.request (common.desk run.now) (run.line common)).2.2.wire) := by
  rw [outlook, h, generate_eq_plan]
  dsimp only
  rcases (common.desk run.now).plan settings run.request with ⟨failure | plan, log⟩
  · rfl
  · -- The line only differs by the report on the plan.
    obtain ⟨hresult, hwire⟩ := plan.finish_eq_close settings (common.desk run.now)
      ((run.line common).note log)
    have hrun := plan.runFrom_like ((Model.Line.Like.refl (run.line common)).note [] log)
      settings (LoopState.start.left settings) .start
    rw [Model.Line.note_nil] at hrun
    dsimp only
    rw [hresult, hwire, plan.run_eq_runFrom, Plan.ahead, hrun.line.wire, hrun.result,
      Trace.nil_join, Plan.upshot]
    change ((plan.close (common.desk run.now) _).map _, _) = _
    cases plan.close (common.desk run.now) _ <;> rfl

section Ahead

variable {plan : Plan} {trace : Trace} {state next : LoopState} {line after : Model.Line}
  {attempt : Attempt}

/-- An attempt that ends a job leaves nothing ahead but the keeping of its code. -/
theorem Plan.ahead_stop (ha : plan.runAttempt settings state line = (attempt, after))
    (hn : state.afterAttempt attempt settings.maxAttempts = next)
    (hphase : next.phase ≠ .attempting) :
    plan.ahead settings connection now trace state line =
      (plan.upshot connection now (trace.join (.one attempt next)), after.wire) := by
  subst hn
  rw [ahead, runFrom_stop _ _ _ (by rw [ha]; exact hphase), ha]

/-- An attempt that does not end a job leaves ahead what was ahead of it. -/
theorem Plan.ahead_goesOn (ha : plan.runAttempt settings state line = (attempt, after))
    (hn : state.afterAttempt attempt settings.maxAttempts = next)
    (hphase : next.phase = .attempting) :
    plan.ahead settings connection now trace state line =
      plan.ahead settings connection now (trace.join (.one attempt next)) next after := by
  subst hn
  obtain ⟨hd, hb⟩ := LoopState.afterAttempt_attempting_iff.mp hphase
  have hleft : state.left settings =
      (state.afterAttempt attempt settings.maxAttempts).left settings + 1 := by
    rw [LoopState.afterAttempt_goesOn hd hb]
    simp only [LoopState.left]
    omega
  rw [ahead, ahead, hleft, runFrom_goesOn _ _ _ (by rw [ha]; exact hphase), ha,
    Trace.join_after]

end Ahead

/-- Kept code is one more version in the store, and fits there. -/
theorem Plan.close_ok {plan : Plan} {common : Common} {trace : Trace} {outcome : Outcome}
    {desk : Desk} {log : Log} (h : plan.close (common.desk now) trace = .ok (outcome, desk, log)) :
    desk.connection =
        common.connection.holding (common.connection.store.extend outcome.artifact) ∧
      common.connection.store.Fits outcome.artifact ∧
      outcome.artifact.jobId = plan.request.jobId := by
  rw [close] at h
  split at h
  · contradiction
  · obtain ⟨⟨artifact, after, log'⟩, hkeep, he⟩ := map_ok_iff.mp h
    simp only [Prod.mk.injEq] at he
    obtain ⟨rfl, rfl, rfl⟩ := he
    obtain ⟨hfits, hafter⟩ := Desk.keep_keeps rfl hkeep
    rw [hafter]
    exact ⟨rfl, hfits, (Desk.keep_ok hkeep).1⟩

/-- A step keeps the scripts. -/
theorem Run.step_connection (settings : Settings) (common : Common) (run : Run) :
    common.connection.Like (run.step settings common).2.connection := by
  have h := run.step_moves settings common
  generalize run.step settings common = next at h
  cases h with
  | kept hs hc =>
    rw [(Plan.close_ok hc).1]
    exact .extend _ _
  | unplanned | planned | goesOn | stops | refused | rests => exact .refl _

/-- A step of a run keeps its outlook. -/
theorem Run.step_outlook (settings : Settings) (common : Common) (run : Run) :
    (run.step settings common).1.outlook settings (run.step settings common).2 =
      run.outlook settings common := by
  have h := run.step_moves settings common
  generalize run.step settings common = next at h
  cases h with
  | unplanned hs hp => rw [outlook, outlook, hs, hp]; rfl
  | @planned plan log hs hp =>
    have hline : ((run.line common).note log).Like (run.line common) := ⟨rfl, rfl, rfl⟩
    have hahead := Plan.ahead_like (.refl common.connection) hline plan settings run.now
      ⟨[], []⟩ .start
    rw [outlook, outlook, hs, hp]
    exact hahead
  | goesOn hs ha hn hphase =>
    rw [outlook, outlook, hs]
    exact (Plan.ahead_goesOn ha hn hphase).symm
  | stops hs ha hn hphase =>
    rw [outlook, outlook, hs]
    exact (Plan.ahead_stop ha hn hphase).symm
  | refused hs hc =>
    have hupshot : Plan.upshot _ common.connection run.now _ = _ := congrArg (Except.map _) hc
    rw [outlook, outlook, hs]
    exact Prod.ext hupshot.symm rfl
  | kept hs hc =>
    have hupshot : Plan.upshot _ common.connection run.now _ = _ := congrArg (Except.map _) hc
    rw [outlook, outlook, hs]
    exact Prod.ext hupshot.symm rfl
  | rests hs => rfl

end Outlook

end Storyboard
