import Storyboard.Proofs.Replies
import Storyboard.Tool.Basic

/-!
# What a studio holds

A studio holds a store for each place: the one of its connection at the place of the
connection, and what lies on the shelf elsewhere. Reading settings and opening the store
leave every place as it was and ask nothing; a job changes at most the place of the
connection.
-/

namespace Storyboard

open Checking (Checked orReport_eq_ok_iff)
open Results (mapError_ok_iff)

/-- What a step leads to, with the studio after it. -/
def Action.on (action : Action α) (studio : Studio) : Except Failure α × Studio :=
  action.run.run studio

namespace Action

variable {studio between after : Studio} {action : Action α} {next : α → Action β}

theorem on_of (result : Except Failure α) :
    Action.on (Action.of result) studio = (result, studio) := rfl

theorem on_get : Action.on (get : Action Studio) studio = (.ok studio, studio) := rfl

theorem on_bind_ok {value : α} (h : Action.on action studio = (.ok value, between)) :
    Action.on (action >>= next) studio = Action.on (next value) between := by
  have hrun : action studio = (.ok value, between) := h
  simp only [on, bind, ExceptT.bind, ExceptT.mk, ExceptT.run, StateT.bind, StateT.run, hrun,
    ExceptT.bindCont]

theorem on_bind_error {failure : Failure}
    (h : Action.on action studio = (.error failure, between)) :
    Action.on (action >>= next) studio = (.error failure, between) := by
  have hrun : action studio = (.error failure, between) := h
  simp only [on, bind, ExceptT.bind, ExceptT.mk, ExceptT.run, StateT.bind, StateT.run, hrun,
    ExceptT.bindCont]
  rfl

/-- Steps lead to a value exactly when each of them does. -/
theorem on_bind_eq_ok {value : β} :
    Action.on (action >>= next) studio = (.ok value, after) ↔
      ∃ first between, Action.on action studio = (.ok first, between) ∧
        Action.on (next first) between = (.ok value, after) := by
  cases h : Action.on action studio with
  | mk result between =>
    cases result with
    | ok first =>
      rw [on_bind_ok h]
      simp
    | error failure =>
      rw [on_bind_error h]
      simp

theorem on_bind_congr {other : Action α} (h : Action.on action studio = Action.on other studio) :
    Action.on (action >>= next) studio = Action.on (other >>= next) studio := by
  cases hr : Action.on action studio with
  | mk result between =>
    cases result with
    | ok value => rw [on_bind_ok hr, on_bind_ok (h ▸ hr)]
    | error failure => rw [on_bind_error hr, on_bind_error (h ▸ hr)]

theorem on_catch_ok {handle : Failure → Action α} {value : α}
    (h : Action.on action studio = (.ok value, between)) :
    Action.on (tryCatch action handle) studio = (.ok value, between) := by
  have hrun : action studio = (.ok value, between) := h
  simp only [on, tryCatch, tryCatchThe, MonadExceptOf.tryCatch, ExceptT.tryCatch, bind, ExceptT.mk,
    ExceptT.run, StateT.bind, StateT.run, hrun]
  rfl

theorem on_catch_error {handle : Failure → Action α} {failure : Failure}
    (h : Action.on action studio = (.error failure, between)) :
    Action.on (tryCatch action handle) studio = Action.on (handle failure) between := by
  have hrun : action studio = (.error failure, between) := h
  simp only [on, tryCatch, tryCatchThe, MonadExceptOf.tryCatch, ExceptT.tryCatch, bind, ExceptT.mk,
    ExceptT.run, StateT.bind, StateT.run, hrun]

/-- The step leaves the studio as it was. -/
def IsStill (action : Action α) : Prop := ∀ studio, (Action.on action studio).2 = studio

theorem IsStill.bind (h : IsStill action) (hnext : ∀ value, IsStill (next value)) :
    IsStill (action >>= next) := by
  intro studio
  have hsame := h studio
  cases hrun : Action.on action studio with
  | mk result between =>
    rw [hrun] at hsame
    cases result with
    | ok value => rw [on_bind_ok hrun, hnext value between, ← hsame]
    | error failure => rw [on_bind_error hrun, ← hsame]

end Action

namespace Studio

/-- The store that lies on the shelf at a place; without a place nothing is kept. -/
def shelved (studio : Studio) : Option Location → Store
  | some location => (studio.shelf.lookup location).getD .empty
  | none => .empty

/-- The store that a studio holds at a place. -/
def contents (studio : Studio) (place : Option Location) : Store :=
  match studio.connection with
  | some connection =>
    if connection.location = place then connection.store else studio.shelved place
  | none => studio.shelved place

/-- Every place holds what it held, and nothing was asked. -/
structure Untouched (before after : Studio) : Prop where
  contents : ∀ place, after.contents place = before.contents place
  wire : after.line.wire = before.line.wire

theorem Untouched.trans {first second third : Studio} (h₁ : Untouched first second)
    (h₂ : Untouched second third) : Untouched first third :=
  ⟨fun place => (h₂.contents place).trans (h₁.contents place), h₂.wire.trans h₁.wire⟩

theorem lookup_filter_ne {shelf : List (Location × Store)} {location other : Location}
    (h : location ≠ other) :
    (shelf.filter (·.1 ≠ other)).lookup location = shelf.lookup location := by
  induction shelf with
  | nil => rfl
  | cons entry shelf ih =>
    obtain ⟨place, store⟩ := entry
    by_cases hp : place = other
    · have hne : (location == place) = false := by simpa [hp] using h
      rw [List.filter_cons_of_neg (by simp [hp]), ih, List.lookup_cons, hne]
    · rw [List.filter_cons_of_pos (by simp [hp]), List.lookup_cons, List.lookup_cons, ih]

/-- The studio with a connection that was put back. -/
def holding (studio : Studio) (connection : Connection) : Studio :=
  { studio with connection := some connection, shelf := shelve connection studio.shelf }

theorem on_reconnect (studio : Studio) (connection : Connection) :
    Action.on (reconnect connection) studio = (.ok (), studio.holding connection) := rfl

theorem contents_holding_self (studio : Studio) (connection : Connection) :
    (studio.holding connection).contents connection.location = connection.store := by
  simp [contents, holding]

theorem contents_holding_other (studio : Studio) {connection : Connection}
    {place : Option Location} (h : connection.location ≠ place) :
    (studio.holding connection).contents place = studio.shelved place := by
  simp only [contents, holding, if_neg h]
  cases place with
  | none => rfl
  | some location =>
    simp only [shelved, shelve]
    cases hc : connection.location with
    | none => rfl
    | some other =>
      have hne : location ≠ other := by
        rintro rfl
        exact h hc
      have heq : (location == other) = false := by simpa using hne
      simp only [List.lookup_cons, heq]
      rw [lookup_filter_ne hne]

variable {studio between after : Studio}

/-- Reading the settings touches no store, and the connection stays. -/
theorem configure_untouched {result : Except Failure Settings}
    (h : Action.on configure studio = (result, after)) :
    Untouched studio after ∧ after.connection = studio.connection := by
  unfold configure at h
  rw [Action.on_bind_ok Action.on_get] at h
  cases hs : studio.settings with
  | some settings =>
    simp only [hs] at h
    obtain ⟨_, rfl⟩ := Prod.mk.inj h
    exact ⟨⟨fun _ => rfl, rfl⟩, rfl⟩
  | none =>
    simp only [hs] at h
    obtain ⟨_, rfl⟩ := Prod.mk.inj h
    exact ⟨⟨fun _ => rfl, rfl⟩, rfl⟩

/-- A store that is opened holds what its place held. -/
theorem openStore_shelved {settings : Settings} {connection : Connection}
    (h : openStore settings studio = .ok connection) :
    connection.store = studio.shelved connection.location := by
  unfold openStore at h
  split at h
  · obtain rfl := Except.ok.inj h
    rfl
  · dsimp only at h
    split at h
    · contradiction
    · obtain rfl := Except.ok.inj h
      rfl

theorem holding_untouched {connection : Connection} (hnone : studio.connection = none)
    (h : connection.store = studio.shelved connection.location) :
    Untouched studio (studio.holding connection) := by
  refine ⟨fun place => ?_, rfl⟩
  have hbefore : studio.contents place = studio.shelved place := by simp only [contents, hnone]
  rw [hbefore]
  by_cases hp : connection.location = place
  · rw [← hp, contents_holding_self, h]
  · exact contents_holding_other studio hp

/-- Opening the store touches no store. -/
theorem connect_untouched {result : Except Failure Connection}
    (h : Action.on connect studio = (result, after)) :
    Untouched studio after ∧
      ∀ connection, result = .ok connection → after.connection = some connection := by
  unfold connect at h
  rw [Action.on_bind_ok Action.on_get] at h
  cases hc : studio.connection with
  | some connection =>
    simp only [hc] at h
    obtain ⟨rfl, rfl⟩ := Prod.mk.inj h
    refine ⟨⟨fun _ => rfl, rfl⟩, fun other he => ?_⟩
    rw [← Except.ok.inj he, hc]
  | none =>
    simp only [hc] at h
    cases hconf : Action.on configure studio with
    | mk configured between =>
      obtain ⟨hu, hsame⟩ := configure_untouched hconf
      rw [hc] at hsame
      cases configured with
      | error failure =>
        rw [Action.on_bind_error hconf] at h
        obtain ⟨rfl, rfl⟩ := Prod.mk.inj h
        exact ⟨hu, by simp⟩
      | ok settings =>
        rw [Action.on_bind_ok hconf, Action.on_bind_ok Action.on_get] at h
        cases hopen : openStore settings between with
        | error failure =>
          rw [hopen, Action.on_bind_error (Action.on_of _)] at h
          obtain ⟨rfl, rfl⟩ := Prod.mk.inj h
          exact ⟨hu, by simp⟩
        | ok connection =>
          rw [hopen, Action.on_bind_ok (Action.on_of _),
            Action.on_bind_ok (on_reconnect _ _)] at h
          obtain ⟨rfl, rfl⟩ := Prod.mk.inj h
          refine ⟨hu.trans (holding_untouched hsame (openStore_shelved hopen)), fun other he => ?_⟩
          rw [← Except.ok.inj he]
          rfl

/-- A job that cannot begin for want of a store or of settings fails with every store as
it was; any other is generated at the connection, which is put back. -/
theorem generateCode_cases (request : Request) (keeps : Bool) (studio : Studio) :
    (∃ failure after, Action.on (generateCode request keeps) studio = (.error failure, after) ∧
      Untouched studio after ∧
      ¬ ∃ connection opened settings ready, Action.on connect studio = (.ok connection, opened) ∧
        Action.on configure opened = (.ok settings, ready)) ∨
    ∃ connection opened settings ready, Action.on connect studio = (.ok connection, opened) ∧
      Action.on configure opened = (.ok settings, ready) ∧ Untouched studio ready ∧
      ready.connection = some connection ∧
      ∀ outcome desk line, generate settings request ⟨connection, keeps, ready.now⟩ ready.line =
          (outcome, desk, line) →
        Action.on (generateCode request keeps) studio =
          (outcome, Studio.holding { ready with line } desk.connection) := by
  unfold generateCode
  cases hconn : Action.on connect studio with
  | mk connected opened =>
    obtain ⟨hu, hsome⟩ := connect_untouched hconn
    cases connected with
    | error failure =>
      refine Or.inl ⟨failure, opened, Action.on_bind_error hconn, hu, ?_⟩
      rintro ⟨connection, opened', settings, ready, hc, _⟩
      simp at hc
    | ok connection =>
      cases hconf : Action.on configure opened with
      | mk configured ready =>
        obtain ⟨hu', hsame⟩ := configure_untouched hconf
        cases configured with
        | error failure =>
          refine Or.inl ⟨failure, ready, ?_, hu.trans hu', ?_⟩
          · rw [Action.on_bind_ok hconn, Action.on_bind_error hconf]
          · rintro ⟨_, _, settings, ready', hc, hs⟩
            simp only [Prod.mk.injEq, Except.ok.injEq] at hc
            obtain ⟨rfl, rfl⟩ := hc
            simp [hconf] at hs
        | ok settings =>
          refine Or.inr ⟨connection, opened, settings, ready, rfl, hconf, hu.trans hu', ?_, ?_⟩
          · rw [hsame, hsome connection rfl]
          · intro outcome desk line hg
            rw [Action.on_bind_ok hconn, Action.on_bind_ok hconf, Action.on_bind_ok Action.on_get]
            simp only [hg]
            rfl

section PutBack

variable {connection : Connection} {place : Option Location}

theorem contents_connected (hc : studio.connection = some connection) :
    studio.contents connection.location = connection.store := by
  simp only [contents, hc, if_true]

/-- Putting a connection back with another store changes no other place. -/
theorem contents_put_back (hc : studio.connection = some connection) (store : Store)
    (line : Model.Line) :
    (Studio.holding { studio with line } (connection.holding store)).contents place =
      if connection.location = place then store else studio.contents place := by
  by_cases hp : connection.location = place
  · rw [if_pos hp, ← hp]
    exact contents_holding_self _ (connection.holding store)
  · have hother : (connection.holding store).location ≠ place := hp
    rw [if_neg hp, contents_holding_other _ hother, contents, hc]
    exact (if_neg hp).symm

theorem contents_put_back_same (hc : studio.connection = some connection) (line : Model.Line) :
    (Studio.holding { studio with line } connection).contents place = studio.contents place := by
  refine (contents_put_back hc connection.store line).trans ?_
  split
  · next hp => rw [← hp, contents_connected hc]
  · rfl

end PutBack

end Studio

namespace Tool

open Storyboard.Action (IsStill)

variable {arguments : GenerateArguments} {studio after : Studio}

theorem accept_ok {title : String} {check : Checked α} {value : α}
    (h : Action.on (accept title check) studio = (.ok value, after)) : check = .accepted value :=
  orReport_eq_ok_iff.mp (mapError_ok_iff.mp (congrArg Prod.fst h))

theorem still_of (result : Except Failure α) : IsStill (Action.of result) := fun _ => rfl

theorem coerce_still (shape : Json.Shape) (argument : Json) : IsStill (coerce shape argument) :=
  fun _ => rfl

theorem revision_still (arguments : GenerateArguments) : IsStill arguments.revision := by
  unfold GenerateArguments.revision
  split
  · exact fun _ => rfl
  · exact IsStill.bind (still_of _) fun _ _ => rfl

/-- Making a request from arguments leaves the studio alone. -/
theorem request_still (arguments : GenerateArguments) : IsStill arguments.request := by
  unfold GenerateArguments.request
  refine IsStill.bind (coerce_still _ _) fun images => ?_
  refine IsStill.bind (coerce_still _ _) fun narration => ?_
  refine IsStill.bind (revision_still arguments) fun revision => ?_
  dsimp only
  split
  · exact IsStill.bind (fun _ => rfl) fun track => still_of _
  · refine IsStill.bind ?_ fun track => still_of _
    rw [map_eq_pure_bind]
    exact IsStill.bind (still_of _) fun _ _ => rfl

/-- A request that arguments make passed its checks. -/
theorem request_accepted {request : Request}
    (h : Action.on arguments.request studio = (.ok request, after)) : request.IsAccepted := by
  unfold GenerateArguments.request at h
  obtain ⟨images, studio₁, _, h₁⟩ := Action.on_bind_eq_ok.mp h
  obtain ⟨narration, studio₂, _, h₂⟩ := Action.on_bind_eq_ok.mp h₁
  obtain ⟨revision, studio₃, _, h₃⟩ := Action.on_bind_eq_ok.mp h₂
  dsimp only at h₃
  split at h₃
  · obtain ⟨track, studio₄, _, hlast⟩ := Action.on_bind_eq_ok.mp h₃
    exact ⟨_, _, _, accept_ok hlast⟩
  · obtain ⟨track, studio₄, _, hlast⟩ := Action.on_bind_eq_ok.mp h₃
    exact ⟨_, _, _, accept_ok hlast⟩

theorem on_answering_ok {action : Action Json} {body : Json}
    (h : Action.on action studio = (.ok body, after)) :
    Action.on (answering action) studio = (.ok body, after) :=
  Action.on_catch_ok h

theorem on_answering_error {action : Action Json} {failure : Failure}
    (h : Action.on action studio = (.error failure, after)) :
    Action.on (answering action) studio = (.ok failure.notice.body, after) :=
  (Action.on_catch_error h).trans rfl

theorem on_answering_congr {action other : Action Json}
    (h : Action.on action studio = Action.on other studio) :
    Action.on (answering action) studio = Action.on (answering other) studio := by
  cases hr : Action.on action studio with
  | mk result after =>
    cases result with
    | ok body => rw [on_answering_ok hr, on_answering_ok (h ▸ hr)]
    | error failure => rw [on_answering_error hr, on_answering_error (h ▸ hr)]

/-- The tool makes a request, and its settings and store are there; then the attempts of the job
leave nothing that could be kept. -/
def Breaks (arguments : GenerateArguments) (studio : Studio) : Prop :=
  ∃ request connection opened settings ready,
    Action.on arguments.request studio = (.ok request, studio) ∧
    Action.on Studio.connect studio = (.ok connection, opened) ∧
    Action.on Studio.configure opened = (.ok settings, ready) ∧
    Storyboard.Breaks settings request ⟨connection, true, ready.now⟩ ready.line

/-- The tool answers with a notice and has asked nothing, or with an outcome. -/
inductive Answers (arguments : GenerateArguments) (studio after : Studio) : Json → Prop
  | failed {failure : Failure} (hc : ∀ place, after.contents place = studio.contents place)
      (hs : after.line.wire.sent = studio.line.wire.sent) :
      Answers arguments studio after failure.notice.body
  | delivered {request : Request} {outcome : Outcome} (place : Option Location)
      (hr : Action.on arguments.request studio = (.ok request, studio))
      (hd : Delivered (studio.contents place) (after.contents place) request.jobId outcome.artifact)
      (ho : ∀ other, other ≠ place → after.contents other = studio.contents other) :
      Answers arguments studio after (outcomeBody outcome)

theorem on_generate_of_request_error {failure : Failure}
    (h : Action.on arguments.request studio = (.error failure, studio)) :
    Action.on (generate arguments) studio = (.ok failure.notice.body, studio) :=
  on_answering_error (Action.on_bind_error h)

theorem on_generate_of_error {request : Request} {failure : Failure}
    (hr : Action.on arguments.request studio = (.ok request, studio))
    (h : Action.on (Studio.generateCode request true) studio = (.error failure, after)) :
    Action.on (generate arguments) studio = (.ok failure.notice.body, after) :=
  on_answering_error (by rw [Action.on_bind_ok hr, Action.on_bind_error h])

theorem on_generate_of_ok {request : Request} {outcome : Outcome}
    (hr : Action.on arguments.request studio = (.ok request, studio))
    (h : Action.on (Studio.generateCode request true) studio = (.ok outcome, after)) :
    Action.on (generate arguments) studio = (.ok (outcomeBody outcome), after) :=
  on_answering_ok (by rw [Action.on_bind_ok hr, Action.on_bind_ok h]; rfl)

/-- The request of the arguments, unless making it fails. -/
theorem request_cases (arguments : GenerateArguments) (studio : Studio) :
    (∃ failure, Action.on arguments.request studio = (.error failure, studio)) ∨
    ∃ request, Action.on arguments.request studio = (.ok request, studio) := by
  have hsame := request_still arguments studio
  cases h : Action.on arguments.request studio with
  | mk result between =>
    rw [h] at hsame
    obtain rfl : between = studio := hsame
    cases result with
    | error failure => exact Or.inl ⟨failure, rfl⟩
    | ok request => exact Or.inr ⟨request, rfl⟩

/-- If the attempts of the job leave nothing that could be kept, the tool answers with a notice
after it has asked; every store is as it was. -/
theorem generate_of_breaks (h : Breaks arguments studio) :
    ∃ (failure : Failure) (after : Studio),
      Action.on (generate arguments) studio = (.ok failure.notice.body, after) ∧
      (∀ place, after.contents place = studio.contents place) ∧
      studio.line.wire.sent.length < after.line.wire.sent.length := by
  obtain ⟨request, connection, opened, settings, ready, hr, hconn, hconf, hbreaks⟩ := h
  rcases Studio.generateCode_cases request true studio with
    ⟨_, _, _, _, hnone⟩ | ⟨connection', opened', settings', ready', hconn', hconf', hu, hc, hg⟩
  · exact absurd ⟨connection, opened, settings, ready, hconn, hconf⟩ hnone
  -- Both steps are determined by the studio, so it is the job of the hypothesis that runs.
  rw [hconn] at hconn'
  simp only [Prod.mk.injEq, Except.ok.injEq] at hconn'
  obtain ⟨rfl, rfl⟩ := hconn'
  rw [hconf] at hconf'
  simp only [Prod.mk.injEq, Except.ok.injEq] at hconf'
  obtain ⟨rfl, rfl⟩ := hconf'
  obtain ⟨failure, line', hgen, hsent⟩ := Storyboard.generate_of_breaks rfl hbreaks
  refine ⟨failure, _, on_generate_of_error hr (hg _ _ _ hgen), fun place => ?_, ?_⟩
  · exact (Studio.contents_put_back_same hc line').trans (hu.contents place)
  · rw [← hu.wire]
    exact hsent

/-- Otherwise the tool answers with a notice before it has asked, or with an outcome, and
one version was added to the store at one place. -/
theorem generate_of_not_breaks (hn : ¬ Breaks arguments studio) :
    ∃ body after, Action.on (generate arguments) studio = (.ok body, after) ∧
      Answers arguments studio after body := by
  rcases request_cases arguments studio with ⟨failure, hr⟩ | ⟨request, hr⟩
  · exact ⟨_, studio, on_generate_of_request_error hr, .failed (fun _ => rfl) rfl⟩
  rcases Studio.generateCode_cases request true studio with
    ⟨failure, after, hf, hu, _⟩ | ⟨connection, opened, settings, ready, hconn, hconf, hu, hc, hg⟩
  · exact ⟨_, after, on_generate_of_error hr hf, .failed hu.contents (by rw [hu.wire])⟩
  have hnot : ¬ Storyboard.Breaks settings request ⟨connection, true, ready.now⟩ ready.line := fun hh =>
    hn ⟨request, connection, opened, settings, ready, hr, hconn, hconf, hh⟩
  rcases Storyboard.generate_of_not_breaks (request_accepted hr) rfl hnot with
    ⟨failure, line', hgen, hsent⟩ | ⟨outcome, line', hgen, hjob, hfits⟩
  · refine ⟨_, _, on_generate_of_error hr (hg _ _ _ hgen), .failed (fun place => ?_) ?_⟩
    · exact (Studio.contents_put_back_same hc line').trans (hu.contents place)
    · rw [← hu.wire]
      exact hsent
  · refine ⟨_, _, on_generate_of_ok hr (hg _ _ _ hgen),
      .delivered connection.location hr ?_ fun other ho => ?_⟩
    · rw [Studio.contents_put_back hc, if_pos rfl, ← hu.contents, Studio.contents_connected hc,
        ← hjob]
      exact delivered_extend hfits
    · rw [Studio.contents_put_back hc, if_neg ho.symm, hu.contents]

end Tool

/-- A job fails before its first request with the store as it was, or it adds one version
to the history of its job and changes nothing else; and so does the tool at the place of its
store. Two things only make a job fail after it has asked, and then always: code of the model
that passes the review with a lone half in it, and a failure from outside that does not tell its
message. -/
theorem delivers_unless_broken (settings : Settings) (request : Request) (desk : Desk)
    (line : Model.Line) (arguments : Tool.GenerateArguments) (studio : Studio) :
    (request.IsAccepted → desk.keeps = true →
      (Breaks settings request desk line → ∃ failure line',
        generate settings request desk line = (.error failure, desk, line') ∧
        line.wire.sent.length < line'.wire.sent.length) ∧
      (¬ Breaks settings request desk line →
        (∃ failure line', generate settings request desk line = (.error failure, desk, line') ∧
          line'.wire.sent = line.wire.sent) ∨
        ∃ outcome after line',
          generate settings request desk line = (.ok outcome, after, line') ∧
          Delivered desk.connection.store after.connection.store request.jobId
            outcome.artifact)) ∧
    (Tool.Breaks arguments studio → ∃ (failure : Failure) (after : Studio),
      Action.on (Tool.generate arguments) studio = (.ok failure.notice.body, after) ∧
      (∀ place, after.contents place = studio.contents place) ∧
      studio.line.wire.sent.length < after.line.wire.sent.length) ∧
    (¬ Tool.Breaks arguments studio → ∃ body after,
      Action.on (Tool.generate arguments) studio = (.ok body, after) ∧
      Tool.Answers arguments studio after body) := by
  refine ⟨fun ha hk => ⟨generate_of_breaks hk, fun hn => ?_⟩,
    Tool.generate_of_breaks, Tool.generate_of_not_breaks⟩
  rcases generate_of_not_breaks ha hk hn with hfail | ⟨outcome, line', hg, hjob, hfits⟩
  · exact Or.inl hfail
  · refine Or.inr ⟨outcome, _, line', hg, ?_⟩
    rw [← hjob]
    exact delivered_extend hfits

namespace Sample

/-- Draws for script ids, counted up from one. -/
def draws (number : Nat) : Draw := Fin.ofNat _ (number + 1)

/-- A studio that has done nothing yet, and reads so many lists and objects in each other. -/
def newStudio (nesting : Nat) : Studio :=
  .start [] none [] (.noContent .openRouter) nesting now draws

end Sample

/-- A job of whose replies the second one passes adds a version; with a lone half in that reply it
fails after it has asked. -/
theorem sample_delivers :
    Sample.request.IsAccepted ∧ Sample.desk.keeps = true ∧
      AcceptsHalf Sample.geminiSettings Sample.request Sample.desk (Sample.answers Sample.half) ∧
      ¬ Breaks Sample.geminiSettings Sample.request Sample.desk (Sample.answers 'x') ∧
      (∃ failure line', generate Sample.geminiSettings Sample.request Sample.desk
          (Sample.answers Sample.half) = (.error failure, Sample.desk, line') ∧
        0 < line'.wire.sent.length) ∧
      ((∃ failure line', generate Sample.geminiSettings Sample.request Sample.desk
          (Sample.answers 'x') = (.error failure, Sample.desk, line') ∧
          line'.wire.sent = (Sample.answers 'x').wire.sent) ∨
        ∃ outcome after line', generate Sample.geminiSettings Sample.request Sample.desk
          (Sample.answers 'x') = (.ok outcome, after, line') ∧
        Delivered Sample.desk.connection.store after.connection.store Sample.request.jobId
          outcome.artifact) := by
  have hhalf := Sample.acceptsHalf_answers
  have hwhole := Sample.not_breaks_answers
  obtain ⟨hbroken, _⟩ := delivers_unless_broken Sample.geminiSettings Sample.request Sample.desk
    (Sample.answers Sample.half) (.ofEntries []) (Sample.newStudio 0)
  obtain ⟨hkept, _⟩ := delivers_unless_broken Sample.geminiSettings Sample.request Sample.desk
    (Sample.answers 'x') (.ofEntries []) (Sample.newStudio 0)
  exact ⟨Sample.request_accepted, rfl, hhalf, hwhole,
    (hbroken Sample.request_accepted rfl).1 (Or.inl hhalf),
    (hkept Sample.request_accepted rfl).2 hwhole⟩

end Storyboard
