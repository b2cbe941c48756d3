import Storyboard.Proofs.Holdings

/-!
# A studio that serves

A studio serves when its settings are known or can be read, their store can be opened, and
a connection to it is open. Each use of the store leaves the studio serving and touches no
place but that of its settings; a store with a place lies on the shelf when it is closed.
-/

namespace Storyboard

/-- The place of the store that settings name. -/
def Settings.place (settings : Settings) : Option Location :=
  if settings.storePath.isEmpty then none else some (.ofPath settings.storePath)

/-- The id under which a script is kept: its own, or the generated one of a draw if it has
none. -/
def Script.idOr (script : Script) (draw : Draw) : String :=
  if script.id.isEmpty then generatedScriptId draw else script.id

/-- The store with a script under an id; one that has no form in the store changes nothing. -/
def Store.keep (store : Store) (id : String) (script : Script) : Store :=
  match write id script with
  | .ok body => store.save id body
  | .error _ => store

theorem Store.keep_codes (store : Store) (id : String) (script : Script) :
    (store.keep id script).codes = store.codes := by
  rw [keep]
  cases write id script <;> rfl

/-- The step leaves the reading of the clock and what will be drawn for script ids as they
were. -/
def Action.KeepsSupplies (action : Action α) : Prop :=
  ∀ studio, (Action.on action studio).2.now = studio.now ∧
    (Action.on action studio).2.draws = studio.draws

namespace Action.KeepsSupplies

variable {action : Action α} {next : α → Action β}

theorem after (h : KeepsSupplies action) {studio after : Studio} {result : Except Failure α}
    (hon : Action.on action studio = (result, after)) :
    after.now = studio.now ∧ after.draws = studio.draws := by
  have hsame := h studio
  rwa [hon] at hsame

theorem of (result : Except Failure α) : KeepsSupplies (Action.of result) := fun _ => ⟨rfl, rfl⟩

theorem bind (h : KeepsSupplies action) (hnext : ∀ value, KeepsSupplies (next value)) :
    KeepsSupplies (action >>= next) := by
  intro studio
  cases hon : Action.on action studio with
  | mk result between =>
    obtain ⟨hnow, hdraws⟩ := h.after hon
    cases result with
    | ok value =>
      rw [Action.on_bind_ok hon, ← hnow, ← hdraws]
      exact hnext value between
    | error failure =>
      rw [Action.on_bind_error hon]
      exact ⟨hnow, hdraws⟩

end Action.KeepsSupplies

namespace Studio

open Storyboard.Action (KeepsSupplies)

theorem keepsSupplies_get : KeepsSupplies get := fun _ => ⟨rfl, rfl⟩

theorem keepsSupplies_configure : KeepsSupplies configure := by
  intro studio
  unfold configure
  rw [Action.on_bind_ok Action.on_get]
  cases hs : studio.settings <;> exact ⟨rfl, rfl⟩

theorem keepsSupplies_reconnect (connection : Connection) :
    KeepsSupplies (reconnect connection) := fun _ => ⟨rfl, rfl⟩

theorem keepsSupplies_connect : KeepsSupplies connect := by
  intro studio
  unfold connect
  rw [Action.on_bind_ok Action.on_get]
  cases hc : studio.connection with
  | some connection => exact ⟨rfl, rfl⟩
  | none =>
    exact keepsSupplies_configure.bind (fun settings => keepsSupplies_get.bind fun current =>
      (KeepsSupplies.of _).bind fun connection => (keepsSupplies_reconnect connection).bind
        fun _ => .of _) studio

variable {studio after : Studio} {settings : Settings}

/-- The studio has settings or reads them at the next use, their store can be opened, and a
connection is open and at its place, where the shelf holds the same. -/
structure Serves (studio : Studio) (settings : Settings) : Prop where
  configured : studio.settings = some settings ∨ studio.settings = none ∧
    (Settings.load studio.environment studio.file).settings = .ok settings
  openable : ∀ location, settings.place = some location →
    studio.holdsFolder location = false ∧ location.isNameable = true
  connected : ∀ connection, studio.connection = some connection →
    connection.isOpen = true ∧ connection.location = settings.place ∧
      (settings.place ≠ none → studio.shelved settings.place = connection.store)

theorem Serves.configure (h : studio.Serves settings) :
    ∃ ready, Action.on Studio.configure studio = (.ok settings, ready) ∧ ready.Serves settings ∧
      ready.shelf = studio.shelf := by
  unfold Studio.configure
  rw [Action.on_bind_ok Action.on_get]
  rcases h.configured with hs | ⟨hs, hload⟩
  · simp only [hs]
    exact ⟨studio, rfl, h, rfl⟩
  · simp only [hs]
    refine ⟨_, Prod.ext hload rfl, ⟨Or.inl ?_, h.openable, h.connected⟩, rfl⟩
    change (Settings.load studio.environment studio.file).settings.toOption = some settings
    rw [hload]
    rfl

/-- What opens serves: its connection is open, at the place of the settings, with what the
place holds. -/
theorem Serves.openStore (h : studio.Serves settings) :
    Studio.openStore settings studio =
      .ok ⟨settings.place, true, studio.shelved settings.place⟩ := by
  unfold Studio.openStore
  by_cases he : settings.storePath.isEmpty = true
  · have hp : settings.place = none := if_pos he
    rw [if_pos he, hp]
    rfl
  · have hp : settings.place = some (.ofPath settings.storePath) := if_neg he
    obtain ⟨hfolder, hname⟩ := h.openable _ hp
    rw [if_neg he, hp]
    simp only [hfolder, hname]
    rfl

theorem holdsFolder_holding {connection : Connection} {location : Location}
    (hc : connection.location = some location) (h : studio.holdsFolder location = false) :
    (studio.holding connection).holdsFolder location = false := by
  have hself : location.contains location = false := by simp [Location.contains]
  simp only [holdsFolder, Bool.or_eq_false_iff] at h ⊢
  refine ⟨h.1, ?_⟩
  simp only [holding, shelve, hc, List.any_cons, hself, Bool.false_or, List.any_eq_false,
    List.mem_filter] at h ⊢
  exact fun entry hentry => h.2 entry hentry.1

theorem Serves.holding {connection : Connection} (h : studio.Serves settings)
    (hopen : connection.isOpen = true) (hp : connection.location = settings.place) :
    (studio.holding connection).Serves settings := by
  refine ⟨h.configured, fun location hl => ?_, fun other ho => ?_⟩
  · obtain ⟨hfolder, hname⟩ := h.openable location hl
    exact ⟨holdsFolder_holding (hp.trans hl) hfolder, hname⟩
  · obtain rfl := Option.some.inj ho
    refine ⟨hopen, hp, fun hsome => ?_⟩
    obtain ⟨location, hl⟩ := Option.ne_none_iff_exists'.mp hsome
    have hc : connection.location = some location := hp.trans hl
    rw [hl]
    simp [shelved, Studio.holding, shelve, hc]

/-- The studio after a step that opened the store: it serves, and the connection holds what
the place of the settings held; every place is as it was. -/
structure Opened (studio after : Studio) (settings : Settings) (connection : Connection) :
    Prop where
  serves : after.Serves settings
  connected : after.connection = some connection
  isOpen : connection.isOpen = true
  location : connection.location = settings.place
  store : connection.store = studio.contents settings.place
  contents : ∀ place, after.contents place = studio.contents place

theorem Serves.connect (h : studio.Serves settings) :
    ∃ connection after, Action.on Studio.connect studio = (.ok connection, after) ∧
      Opened studio after settings connection := by
  cases hc : studio.connection with
  | some connection =>
    have hon : Action.on Studio.connect studio = (.ok connection, studio) := by
      unfold Studio.connect
      rw [Action.on_bind_ok Action.on_get]
      simp only [hc]
      rfl
    obtain ⟨hopen, hplace, _⟩ := h.connected connection hc
    refine ⟨connection, studio, hon, h, hc, hopen, hplace, ?_, fun _ => rfl⟩
    rw [← hplace, contents_connected hc]
  | none =>
    obtain ⟨ready, hconf, hready, hshelf⟩ := h.configure
    obtain ⟨_, hsame⟩ := configure_untouched hconf
    have hnone : ready.connection = none := hsame.trans hc
    have hon : Action.on Studio.connect studio =
        (.ok ⟨settings.place, true, ready.shelved settings.place⟩,
          ready.holding ⟨settings.place, true, ready.shelved settings.place⟩) := by
      unfold Studio.connect
      rw [Action.on_bind_ok Action.on_get]
      simp only [hc]
      rw [Action.on_bind_ok hconf, Action.on_bind_ok Action.on_get, hready.openStore,
        Action.on_bind_ok (Action.on_of _), Action.on_bind_ok (on_reconnect _ _)]
      rfl
    obtain ⟨huntouched, hconn⟩ := connect_untouched hon
    refine ⟨_, _, hon, hready.holding rfl rfl, hconn _ rfl, rfl, rfl, ?_, huntouched.contents⟩
    simp only [contents, hc]
    cases settings.place with
    | none => rfl
    | some location => exact congrArg (fun shelf => (List.lookup location shelf).getD _) hshelf

/-- A step that leaves the studio serving and every place but that of the settings as it
was. -/
structure Within (studio after : Studio) (settings : Settings) : Prop where
  serves : after.Serves settings
  others : ∀ place, place ≠ settings.place → after.contents place = studio.contents place

theorem Opened.within {after : Studio} {connection : Connection}
    (h : Opened studio after settings connection) : Within studio after settings :=
  ⟨h.serves, fun place _ => h.contents place⟩

theorem Serves.lookUp (h : studio.Serves settings) (find : Store → Except Failure α) :
    ∃ after, Action.on (do Action.of (find (← Studio.store))) studio =
        (find (studio.contents settings.place), after) ∧
      after.Serves settings ∧ ∀ place, after.contents place = studio.contents place := by
  obtain ⟨connection, after, hon, hopened⟩ := h.connect
  have hstore : Action.on Studio.store studio = (.ok connection.store, after) := by
    unfold Studio.store
    rw [Action.on_bind_ok hon, Action.on_of, Desk.access_ok_iff.mpr ⟨hopened.isOpen, rfl⟩]
  refine ⟨after, ?_, hopened.serves, hopened.contents⟩
  rw [Action.on_bind_ok hstore, Action.on_of, hopened.store]

theorem Opened.renamed {opened : Studio} {connection : Connection}
    (h : Opened studio opened settings connection) (line : Model.Line) (draws : Nat → Draw) :
    Opened studio { opened with line, draws } settings connection :=
  ⟨⟨h.serves.configured, h.serves.openable, h.serves.connected⟩, h.connected, h.isOpen,
    h.location, h.store, h.contents⟩

/-- Putting back the opened connection with another store changes the place of the settings
alone. -/
theorem Opened.putBack {opened : Studio} {connection : Connection}
    (h : Opened studio opened settings connection) (store : Store) :
    (opened.holding (connection.holding store)).contents settings.place = store ∧
      Within studio (opened.holding (connection.holding store)) settings := by
  have hput : ∀ place, (opened.holding (connection.holding store)).contents place =
      if connection.location = place then store else opened.contents place :=
    fun _ => contents_put_back h.connected store opened.line
  refine ⟨?_, h.serves.holding h.isOpen h.location, fun place hne => ?_⟩
  · rw [hput, if_pos h.location]
  · rw [hput, if_neg (fun he => hne (he.symm.trans h.location)), h.contents]

/-- An addition that the store accepts is answered with its artifact, and the place of the
settings holds what the store became. -/
theorem Serves.append_ok (h : studio.Serves settings) {jobId code flag : Json}
    {artifact : Artifact} {store : Store}
    (hu : (studio.contents settings.place).update studio.now jobId code flag =
      .ok (artifact, store)) :
    ∃ after, Action.on (appendVersion jobId code flag) studio = (.ok artifact, after) ∧
      Within studio after settings ∧ after.contents settings.place = store := by
  obtain ⟨connection, opened, hon, hopened⟩ := h.connect
  rw [← hopened.store, ← (keepsSupplies_connect.after hon).1] at hu
  obtain ⟨hcontents, hwithin⟩ := (hopened.renamed
    (opened.line.note (Store.appendedLog artifact flag)) opened.draws).putBack store
  refine ⟨_, ?_, hwithin, hcontents⟩
  unfold appendVersion
  rw [Action.on_bind_ok hon, Desk.access_ok_iff.mpr ⟨hopened.isOpen, rfl⟩,
    Action.on_bind_ok (Action.on_of _), Action.on_bind_ok Action.on_get, hu,
    Action.on_bind_ok (Action.on_of _)]
  rfl

theorem Serves.append_error (h : studio.Serves settings) {jobId code flag : Json}
    {failure : Failure}
    (hu : (studio.contents settings.place).update studio.now jobId code flag = .error failure) :
    ∃ after, Action.on (appendVersion jobId code flag) studio = (.error failure, after) ∧
      after.Serves settings ∧ ∀ place, after.contents place = studio.contents place := by
  obtain ⟨connection, opened, hon, hopened⟩ := h.connect
  rw [← hopened.store, ← (keepsSupplies_connect.after hon).1] at hu
  refine ⟨opened, ?_, hopened.serves, hopened.contents⟩
  unfold appendVersion
  rw [Action.on_bind_ok hon, Desk.access_ok_iff.mpr ⟨hopened.isOpen, rfl⟩,
    Action.on_bind_ok (Action.on_of _), Action.on_bind_ok Action.on_get, hu,
    Action.on_bind_error (Action.on_of _)]

/-- What is left of the draws for script ids when a script was kept. -/
def drawsAfter (studio : Studio) (script : Script) : Nat → Draw :=
  if script.id.isEmpty then fun number => studio.draws (number + 1) else studio.draws

/-- A script is answered with its id, or with a generated one, and the place of the settings
holds it under this id; a script that has no form in the store is refused. -/
theorem Serves.saveScript (h : studio.Serves settings) (script : Script) :
    ∃ after, Action.on (Studio.saveScript script) studio =
        ((Store.write (script.idOr (studio.draws 0)) script).map fun _ =>
          script.idOr (studio.draws 0), after) ∧
      Within studio after settings ∧
      after.contents settings.place =
        (studio.contents settings.place).keep (script.idOr (studio.draws 0)) script ∧
      after.draws = studio.drawsAfter script := by
  obtain ⟨connection, opened, hon, hopened⟩ := h.connect
  have hsame : opened.draws = studio.draws := (keepsSupplies_connect.after hon).2
  rw [drawsAfter, ← hsame]
  -- Whether an id is made up decides only about the draws that are left.
  let left : Nat → Draw :=
    if script.id.isEmpty then fun number => opened.draws (number + 1) else opened.draws
  have hrun : Action.on (Studio.saveScript script) studio =
      Action.on (do
        let body ← Action.of (Store.write (script.idOr (opened.draws 0)) script)
        let store ← Action.of connection.access
        reconnect (connection.holding (store.save (script.idOr (opened.draws 0)) body))
        return script.idOr (opened.draws 0)) { opened with draws := left } := by
    unfold Studio.saveScript Script.idOr
    rw [Action.on_bind_ok hon, Action.on_bind_ok Action.on_get]
    by_cases he : script.id.isEmpty = true
    · simp only [left, if_pos he]
      exact Action.on_bind_ok rfl
    · simp only [left, if_neg he]
  have hnamed := hopened.renamed opened.line left
  rw [hrun]
  cases hw : Store.write (script.idOr (opened.draws 0)) script with
  | error failure =>
    refine ⟨_, Action.on_bind_error (Action.on_of _), hnamed.within, ?_, rfl⟩
    rw [hnamed.contents, Store.keep, hw]
  | ok body =>
    obtain ⟨hcontents, hwithin⟩ :=
      hnamed.putBack (connection.store.save (script.idOr (opened.draws 0)) body)
    rw [Action.on_bind_ok (Action.on_of _), Desk.access_ok_iff.mpr ⟨hopened.isOpen, rfl⟩,
      Action.on_bind_ok (Action.on_of _), Action.on_bind_ok (on_reconnect _ _)]
    refine ⟨_, rfl, hwithin, ?_, rfl⟩
    rw [hcontents, ← hopened.store, Store.keep, hw]

theorem contents_elsewhere {connection : Connection} {place : Option Location}
    (hc : studio.connection = some connection) (hp : connection.location ≠ place) :
    studio.contents place = studio.shelved place := by
  simp only [contents, hc, if_neg hp]

/-- Closing the store and dropping it leaves what lies at its place, if it has one. -/
theorem Serves.reopen (h : studio.Serves settings) (hplace : settings.place ≠ none) :
    ∃ after, Action.on (do closeStore; dropStore) studio = (.ok (), after) ∧
      after.Serves settings ∧ ∀ place, after.contents place = studio.contents place := by
  obtain ⟨connection, opened, hon, hopened⟩ := h.connect
  let closed : Connection := { connection with isOpen := false }
  have hrun : Action.on (do closeStore; dropStore) studio =
      (.ok (), { opened.holding closed with connection := none }) := by
    have hclose : Action.on closeStore studio = (.ok (), opened.holding closed) := by
      unfold closeStore
      rw [Action.on_bind_ok hon, on_reconnect]
    rw [Action.on_bind_ok hclose]
    rfl
  have hserves := hopened.serves.holding hopened.isOpen hopened.location
  refine ⟨_, hrun, ⟨hserves.configured, hserves.openable, fun other ho => ?_⟩, fun place => ?_⟩
  · contradiction
  · have hshelved : ({ opened.holding closed with connection := none } : Studio).contents place =
        (opened.holding closed).shelved place := rfl
    rw [hshelved, ← hopened.contents]
    by_cases hp : connection.location = place
    · obtain ⟨location, hl⟩ := Option.ne_none_iff_exists'.mp hplace
      have hsome : connection.location = some location := hopened.location.trans hl
      rw [← hp, contents_connected hopened.connected, hsome]
      simp [shelved, Studio.holding, shelve, closed, hsome]
    · have hnot : closed.location ≠ place := hp
      have hheld := contents_holding_other opened hnot
      rw [contents_elsewhere rfl hnot] at hheld
      rw [hheld, contents_elsewhere hopened.connected hp]

end Studio

end Storyboard
