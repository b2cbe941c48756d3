import Storyboard.Proofs.Holdings
import Storyboard.Proofs.Merging
import Storyboard.Server

/-!
# Settings that are remembered

Only two steps of a studio change its settings: reading them when there are none, and forgetting
them. Every other step is put together from steps that leave them alone. So a studio that has read
its settings goes on with them, through calls and whatever becomes of its environment, until they
are forgotten.
-/

namespace Storyboard

namespace Action

/-- Settings that the studio has are not lost and not replaced. -/
def Remembers (action : Action α) : Prop :=
  ∀ studio settings, studio.settings = some settings →
    (Action.on action studio).2.settings = some settings

variable {action : Action α} {next : α → Action β} {studio : Studio}

theorem on_set (changed : Studio) :
    Action.on (set changed : Action Unit) studio = (.ok (), changed) := rfl

theorem Remembers.of_still (h : IsStill action) : Remembers action := by
  intro studio settings hs
  rw [h studio]
  exact hs

theorem Remembers.modify {change : Studio → Studio}
    (h : ∀ studio, (change studio).settings = studio.settings) :
    Remembers (modify change : Action Unit) := by
  intro studio settings hs
  exact (h studio).trans hs

theorem Remembers.bind (h : Remembers action) (hnext : ∀ value, Remembers (next value)) :
    Remembers (action >>= next) := by
  intro studio settings hs
  have hbetween := h studio settings hs
  cases hrun : Action.on action studio with
  | mk result between =>
    rw [hrun] at hbetween
    cases result with
    | ok value =>
      rw [on_bind_ok hrun]
      exact hnext value between settings hbetween
    | error failure =>
      rw [on_bind_error hrun]
      exact hbetween

theorem Remembers.catch {handle : Failure → Action α} (h : Remembers action)
    (hhandle : ∀ failure, Remembers (handle failure)) : Remembers (tryCatch action handle) := by
  intro studio settings hs
  have hbetween := h studio settings hs
  cases hrun : Action.on action studio with
  | mk result between =>
    rw [hrun] at hbetween
    cases result with
    | ok value =>
      rw [on_catch_ok hrun]
      exact hbetween
    | error failure =>
      rw [on_catch_error hrun]
      exact hhandle failure between settings hbetween

theorem Remembers.of (result : Except Failure α) : Remembers (Action.of result) :=
  .of_still fun _ => rfl

theorem Remembers.pure (value : α) : Remembers (Pure.pure value : Action α) :=
  .of_still fun _ => rfl

theorem Remembers.map (f : α → β) (h : Remembers action) : Remembers (f <$> action) := by
  rw [map_eq_pure_bind]
  exact h.bind fun _ => .pure _

end Action

open Storyboard.Action (Remembers)

namespace Studio

theorem remembers_note (entries : Log) : Remembers (note entries) := .modify fun _ => rfl

theorem remembers_configure : Remembers configure := by
  intro studio settings hs
  unfold configure
  rw [Action.on_bind_ok Action.on_get]
  simp only [hs]
  exact hs

theorem remembers_reconnect (connection : Connection) : Remembers (reconnect connection) :=
  .modify fun _ => rfl

theorem remembers_connect : Remembers connect := by
  refine (Remembers.of_still fun _ => rfl).bind fun studio => ?_
  split
  · exact .pure _
  · refine remembers_configure.bind fun settings => ?_
    refine (Remembers.of_still fun _ => rfl).bind fun studio => ?_
    refine (Remembers.of _).bind fun connection => ?_
    exact (remembers_reconnect connection).bind fun _ => .pure _

theorem remembers_store : Remembers store := remembers_connect.bind fun _ => .of _

theorem remembers_saveScript (script : Script) : Remembers (saveScript script) := by
  refine remembers_connect.bind fun connection => ?_
  have hkeep (id : String) : Remembers (do
      let body ← Action.of (Store.write id script)
      let store ← Action.of connection.access
      reconnect (connection.holding (store.save id body))
      return id) := by
    refine (Remembers.of _).bind fun body => ?_
    refine (Remembers.of _).bind fun store => ?_
    exact (remembers_reconnect _).bind fun _ => .pure _
  intro studio settings hs
  rw [Action.on_bind_ok Action.on_get]
  dsimp only
  by_cases hid : script.id.isEmpty = true
  · simp only [if_pos hid]
    rw [Action.on_bind_ok (Action.on_set _)]
    exact hkeep _ _ settings hs
  · simp only [if_neg hid]
    exact hkeep _ _ settings hs

theorem remembers_history (jobId : Json) : Remembers (history jobId) :=
  remembers_store.bind fun _ => .of _

theorem remembers_generateCode (request : Request) (keeps : Bool) :
    Remembers (generateCode request keeps) := by
  refine remembers_connect.bind fun connection => ?_
  refine remembers_configure.bind fun configured => ?_
  intro studio settings hs
  rw [Action.on_bind_ok Action.on_get]
  dsimp only
  rw [Action.on_bind_ok (Action.on_set _)]
  exact ((remembers_reconnect _).bind fun _ => .of _) _ settings hs

theorem remembers_dropStore : Remembers dropStore := .modify fun _ => rfl

theorem remembers_closeClients (closes : String → Bool) : Remembers (closeClients closes) := by
  intro studio settings hs
  exact hs

end Studio

namespace Tool

theorem remembers_answering {action : Action Json} (h : Remembers action) :
    Remembers (answering action) :=
  h.catch fun _ => .pure _

theorem remembers_saveScript (script : Json) : Remembers (saveScript script) := by
  refine remembers_answering ?_
  refine (Remembers.of_still (coerce_still _ _)).bind fun value => ?_
  refine (Remembers.of _).bind fun script => ?_
  exact (Studio.remembers_saveScript script).bind fun _ => .pure _

theorem remembers_generate (arguments : GenerateArguments) : Remembers (generate arguments) := by
  refine remembers_answering ?_
  refine (Remembers.of_still (request_still arguments)).bind fun request => ?_
  exact (Studio.remembers_generateCode request true).bind fun _ => .pure _

theorem remembers_history (jobId : Json) (withCode : Bool) : Remembers (history jobId withCode) :=
  remembers_answering ((Studio.remembers_history jobId).bind fun _ => .pure _)

theorem remembers_tool : ∀ tool ∈ catalog, ∀ arguments, Remembers (tool.call arguments) := by
  intro tool htool arguments
  simp only [catalog, List.mem_cons, List.not_mem_nil, or_false] at htool
  rcases htool with rfl | rfl | rfl | rfl
  · exact remembers_generate _
  · exact remembers_history _ _
  · exact remembers_saveScript _
  · exact .pure _

theorem remembers_call (name : String) (arguments : Json.Entries) :
    Remembers (call name arguments) := by
  unfold call
  split
  · exact .pure _
  · next tool hfound =>
    split
    · exact .pure _
    · exact .map _ (remembers_tool tool (List.mem_of_find?_eq_some hfound) _)

end Tool

namespace Server

theorem remembers_attempted {action : Action α} (h : Remembers action) :
    Remembers (attempted action) :=
  (h.map _).catch fun _ => .pure _

theorem remembers_answer (call : Call) : Remembers (answer call) :=
  (Tool.remembers_call call.tool call.arguments).bind fun _ => .pure _

theorem remembers_isEnabled (tracer : Tracer) : Remembers tracer.isEnabled := by
  unfold Tracer.isEnabled
  split
  · exact Studio.remembers_configure.map _
  · exact .pure _

theorem remembers_setup (tracer : Tracer) : Remembers tracer.setup := by
  refine (remembers_isEnabled tracer).bind fun enabled => ?_
  split
  · refine Studio.remembers_configure.bind fun settings => ?_
    exact (Studio.remembers_note _).bind fun _ => .pure _
  · exact .pure _

theorem remembers_shutdown (tracer : Tracer) : Remembers tracer.shutdown := by
  refine (remembers_isEnabled tracer).bind fun enabled => ?_
  split
  · exact (Studio.remembers_note _).bind fun _ => .pure _
  · exact .pure _

theorem remembers_answers (calls : List Call) :
    Remembers (calls.mapM fun call => attempted (answer call)) := by
  induction calls with
  | nil => exact .pure _
  | cons call calls ih =>
    rw [List.mapM_cons]
    refine (remembers_attempted (remembers_answer call)).bind fun result => ?_
    exact ih.bind fun results => .pure _

theorem remembers_serve (tracer : Tracer) (closes : String → Bool) (calls : List Call) :
    Remembers (serve tracer closes calls) := by
  refine (remembers_setup tracer).bind fun _ => ?_
  refine (remembers_answers calls).bind fun results => ?_
  refine (Studio.remembers_closeClients closes).bind fun closed => ?_
  refine Studio.remembers_dropStore.bind fun _ => ?_
  refine (remembers_shutdown tracer).bind fun _ => ?_
  exact (Studio.remembers_note _).bind fun _ => .pure _

end Server

/-- What may happen while the settings are not forgotten. -/
inductive Event where
  | become (environment : Environment)
  | edit (file : Option String)
  | expect (replies : List Model.Reply) (jitter : List Float)
  | wait (now : Moment)
  | configure
  | answer (call : Server.Call)
  | serve (tracer : Tracer) (closes : String → Bool) (calls : List Server.Call)

namespace Event

/-- The studio after an event. -/
def after (studio : Studio) : Event → Studio
  | .become environment => { studio with environment }
  | .edit file => { studio with file }
  | .expect replies jitter => (Action.on (Studio.expect replies jitter) studio).2
  | .wait now => (Action.on (Studio.wait now) studio).2
  | .configure => (Action.on Studio.configure studio).2
  | .answer call => (Action.on (Server.answer call) studio).2
  | .serve tracer closes calls => (Action.on (Server.serve tracer closes calls) studio).2

variable {studio : Studio} {settings : Settings}

theorem settings_after (event : Event) (h : studio.settings = some settings) :
    (event.after studio).settings = some settings := by
  cases event with
  | become | edit | expect | wait => exact h
  | configure => exact Studio.remembers_configure studio settings h
  | answer call => exact Server.remembers_answer call studio settings h
  | serve tracer closes calls => exact Server.remembers_serve tracer closes calls studio settings h

theorem settings_foldl_after (events : List Event) (h : studio.settings = some settings) :
    (events.foldl Event.after studio).settings = some settings := by
  induction events generalizing studio with
  | nil => exact h
  | cons event events ih => exact ih (settings_after event h)

end Event

namespace Studio

variable {studio : Studio} {settings : Settings}

theorem configure_of_settings (h : studio.settings = some settings) :
    Action.on configure studio = (.ok settings, studio) := by
  unfold configure
  rw [Action.on_bind_ok Action.on_get]
  simp only [h]
  rfl

theorem configure_of_none (h : studio.settings = none) :
    ∃ ready, Action.on configure studio =
        ((Settings.load studio.environment studio.file).settings, ready) ∧
      ready.settings = (Settings.load studio.environment studio.file).settings.toOption ∧
      ready.environment = (Settings.load studio.environment studio.file).environment := by
  unfold configure
  rw [Action.on_bind_ok Action.on_get]
  simp only [h]
  exact ⟨_, rfl, rfl, rfl⟩

end Studio

/-- Filling in keeps every text of a variable's own, takes the last assignment of the file where
there is none, touches nothing else and says what it wrote; the next time it changes nothing. The
settings are those of the environment filled in, and remain them in whatever happens until they
are forgotten. -/
theorem filling_merges_and_settings_stay (studio : Studio)
    (hfile : ∀ content, studio.file = some content → hasNul content = false) :
    Merges studio.environment studio.file (studio.environment.fillFrom studio.file) ∧
    (studio.settings = none → ∃ ready, Action.on Studio.configure studio =
        (Settings.fromEnvironment (studio.environment.fillFrom studio.file).environment, ready) ∧
      ready.environment = (studio.environment.fillFrom studio.file).environment ∧
      ∀ settings,
        Settings.fromEnvironment (studio.environment.fillFrom studio.file).environment =
          .ok settings →
        ∀ events : List Event, Action.on Studio.configure (events.foldl Event.after ready) =
          (.ok settings, events.foldl Event.after ready)) := by
  have hmerges := fillFrom_merges studio.environment hfile
  refine ⟨hmerges, fun hnone => ?_⟩
  have hload : Settings.load studio.environment studio.file =
      ⟨Settings.fromEnvironment (studio.environment.fillFrom studio.file).environment,
        (studio.environment.fillFrom studio.file).environment,
        Settings.filledLog (studio.environment.fillFrom studio.file).written⟩ := by
    rw [Settings.load, if_neg (by simp [hmerges.finished])]
  obtain ⟨ready, hready, hsettings, henvironment⟩ := Studio.configure_of_none hnone
  rw [hload] at hready hsettings henvironment
  refine ⟨ready, hready, henvironment, ?_⟩
  intro settings hread events
  rw [hread] at hsettings
  exact Studio.configure_of_settings (Event.settings_foldl_after events hsettings)

namespace Sample

/-- A studio with one variable that refers to itself, and a file that assigns to it. -/
def unread : Studio :=
  .start [("OPENROUTER_API_KEY", "'$OPENROUTER_API_KEY'"), ("GEMINI_API_KEY", "held")]
    (some "GEMINI_API_KEY=other\nexport OPENROUTER_API_KEY = \"taken\"\n") []
    (.noContent .openRouter) 0 now draws

end Sample

/-- The reference gives way to the text of the file, the other variable keeps its text, and the
settings have both of them until they are forgotten. -/
theorem reference_is_filled_in :
    Merges Sample.unread.environment Sample.unread.file
      (Sample.unread.environment.fillFrom Sample.unread.file) ∧
    ∃ settings ready, settings.openRouterKey = "taken" ∧ settings.geminiKey = "held" ∧
      Action.on Studio.configure Sample.unread = (.ok settings, ready) ∧
      ∀ events : List Event, Action.on Studio.configure (events.foldl Event.after ready) =
        (.ok settings, events.foldl Event.after ready) := by
  have hfile : ∀ content, Sample.unread.file = some content → hasNul content = false := by
    rintro _ ⟨⟩
    decide
  obtain ⟨hmerges, hstays⟩ := filling_merges_and_settings_stay Sample.unread hfile
  obtain ⟨ready, hready, _, hevents⟩ := hstays rfl
  have hread : ∃ settings, Settings.fromEnvironment
      (Sample.unread.environment.fillFrom Sample.unread.file).environment = .ok settings ∧
      settings.openRouterKey = "taken" ∧ settings.geminiKey = "held" := ⟨_, rfl, rfl, rfl⟩
  obtain ⟨settings, hread, htaken, hheld⟩ := hread
  exact ⟨hmerges, settings, ready, htaken, hheld, hready.trans (by rw [hread]),
    hevents settings hread⟩

end Storyboard
