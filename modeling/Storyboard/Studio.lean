import Storyboard.Job.Generation

/-!
# A running studio

What a studio holds between calls: its environment, the settings once they have
been read, the store once it has been opened, the line to the models, what the clock
reads, and what will be drawn for script ids. Settings and store are made at the first
use. Stores with a path outlive their connection.
-/

namespace Storyboard

/-- The state of a studio. -/
structure Studio where
  environment : Environment
  /-- The content of the environment file, if there is one. -/
  file : Option String
  settings : Option Settings
  connection : Option Connection
  /-- Stores by place. -/
  shelf : List (Location × Store)
  /-- Folders that are there from the start. -/
  folders : List Location
  line : Model.Line
  /-- What the clock reads. -/
  now : Moment
  /-- What is drawn for the next script ids. -/
  draws : Nat → Draw
  /-- So many lists and objects in each other are read in an argument that comes as text. -/
  nesting : Nat

/-- A step of a studio, which may fail. What it changed before it failed stays. -/
abbrev Action (α : Type) := ExceptT Failure (StateM Studio) α

/-- A step that is decided without the studio. -/
def Action.of (result : Except Failure α) : Action α := ExceptT.mk (pure result)

namespace Studio

/-- A studio that has done nothing yet. -/
def start (environment : Environment) (file : Option String) (folders : List Location)
    (silence : Failure) (nesting : Nat) (now : Moment) (draws : Nat → Draw) : Studio where
  environment
  file
  settings := none
  connection := none
  shelf := []
  folders
  line := ⟨⟨[], silence, nesting, []⟩, ⟨[], [], []⟩, []⟩
  now
  draws
  nesting

/-- What the studio has reported. -/
def log (studio : Studio) : Log := studio.line.pacing.log

/-- Adds to what the studio has reported. -/
def note (entries : Log) : Action Unit :=
  modify fun studio => { studio with line := studio.line.note entries }

/-- The settings, read at the first use. Settings that cannot be read are tried
again at the next use. -/
def configure : Action Settings := do
  let studio ← get
  match studio.settings with
  | some settings => return settings
  | none =>
    let loaded := Settings.load studio.environment studio.file
    set { studio with
      environment := loaded.environment
      settings := loaded.settings.toOption }
    note loaded.log
    Action.of loaded.settings

/-- Sets a variable, or removes it. -/
def setVariable (name : String) (value : Option String) (environment : Environment) : Environment :=
  match value with
  | some value => Keyed.put name value environment
  | none => Keyed.remove name environment

/-- Time goes by until the clock reads this. -/
def wait (now : Moment) : Action Unit := modify fun studio => { studio with now }

/-- Forgets the settings, so that the next use reads them again. -/
def forgetSettings : Action Unit := modify fun studio => { studio with settings := none }

/-- The shelf with the store of a connection on it, if it has a place. -/
def shelve (connection : Connection) (shelf : List (Location × Store)) :
    List (Location × Store) :=
  match connection.location with
  | some location => (location, connection.store) :: shelf.filter (·.1 ≠ location)
  | none => shelf

/-- Puts back a connection whose store may have changed. -/
def reconnect (connection : Connection) : Action Unit :=
  modify fun studio => { studio with
    connection := some connection
    shelf := shelve connection studio.shelf }

/-- A folder is at this place. -/
def holdsFolder (studio : Studio) (location : Location) : Bool :=
  studio.folders.any (fun folder => location = folder || location.contains folder) ||
    studio.shelf.any fun entry => location.contains entry.1

/-- Opens the store that the settings name. -/
def openStore (settings : Settings) (studio : Studio) : Except Failure Connection :=
  if settings.storePath.isEmpty then .ok ⟨none, true, .empty⟩
  else
    let location := Location.ofPath settings.storePath
    if studio.holdsFolder location || !location.isNameable then .error .storeUnopened
    else .ok ⟨some location, true, (studio.shelf.lookup location).getD .empty⟩

/-- The connection to the store, opened at the first use. -/
def connect : Action Connection := do
  match (← get).connection with
  | some connection => return connection
  | none =>
    let connection ← Action.of (openStore (← configure) (← get))
    reconnect connection
    return connection

/-- Closes the connection, which stays in use. -/
def closeStore : Action Unit := do
  let connection ← connect
  reconnect { connection with isOpen := false }

/-- Closes the connection and drops it. -/
def dropStore : Action Unit := modify fun studio => { studio with connection := none }

/-- The store of the studio. -/
def store : Action Store := do Action.of (← connect).access

/-- Keeps a script under its id, or under a generated one. -/
def saveScript (script : Script) : Action String := do
  let connection ← connect
  let studio ← get
  let id := if script.id.isEmpty then generatedScriptId (studio.draws 0) else script.id
  if script.id.isEmpty then set { studio with draws := fun number => studio.draws (number + 1) }
  let body ← Action.of (Store.write id script)
  let store ← Action.of connection.access
  reconnect (connection.holding (store.save id body))
  return id

/-- Appends a version of code whose fields pass the check. -/
def appendVersion (jobId code usedFallback : Json) : Action Artifact := do
  let connection ← connect
  let store ← Action.of connection.access
  let (artifact, store) ← Action.of (store.update (← get).now jobId code usedFallback)
  reconnect (connection.holding store)
  note (Store.appendedLog artifact usedFallback)
  return artifact

/-- The script that a value names. -/
def script? (id : Json) : Action (Option Script) := do Action.of ((← store).scriptOf? id)

/-- The versions of the job that a value names. -/
def history (jobId : Json) : Action (List Artifact) := do Action.of ((← store).historyOf jobId)

/-- The latest version of the job that a value names. -/
def latest? (jobId : Json) : Action (Option Artifact) := do Action.of ((← store).latestOf jobId)

/-- Lays out what the next exchanges with a model meet. -/
def expect (replies : List Model.Reply) (jitter : List Float) : Action Unit :=
  modify fun studio => { studio with line := { studio.line with
    wire := { studio.line.wire with replies, sent := [] }
    pacing := { studio.line.pacing with jitter, pauses := [] } } }

/-- Generates the code of a job, and keeps it unless `keeps` is false. -/
def generateCode (request : Request) (keeps : Bool) : Action Outcome := do
  let connection ← connect
  let settings ← configure
  let studio ← get
  let (outcome, desk, line) := generate settings request ⟨connection, keeps, studio.now⟩ studio.line
  set { studio with line }
  reconnect desk.connection
  Action.of outcome

/-- Asks the model one question. -/
def ask (overrides : Model.Overrides) (prompts : Model.Prompts) : Action Json := do
  let settings ← configure
  let studio ← get
  let (answer, line) := studio.line.ask settings overrides prompts
  set { studio with line }
  Action.of answer

/-- Closes all shared clients. -/
def closeClients (closes : String → Bool) : Action Nat := do
  let studio ← get
  let (count, line) := studio.line.closeClients closes
  set { studio with line }
  return count

end Studio

end Storyboard
