import Storyboard.Proofs.Serving

/-!
# Calls on the store

A sequence of calls on the store of a studio leaves, for each job, the accepted versions of
that job in the order of the calls, numbered from one. The invariant is that the history of
every job is such a list and that its next number is the one after: then the row of the next
version clashes with none, comes last by its number, and is read back as it was added.
-/

namespace Storyboard

namespace Store

/-- What is kept of a version beside its job and its number. -/
structure Entry where
  code : String
  usedFallback : Bool
  createdAt : Moment
deriving DecidableEq

variable {store : Store} {jobId : String} {entries : List Entry}

/-- The version that an entry becomes under a number. -/
def Entry.artifact (entry : Entry) (jobId : String) (version : Nat) : Artifact :=
  ⟨jobId, entry.code, entry.usedFallback, version, entry.createdAt⟩

/-- Versions of a job, counted from the first. -/
def numbered (jobId : String) (entries : List Entry) : List Artifact :=
  entries.mapIdx fun index entry => entry.artifact jobId (firstVersion + index)

theorem numbered_append (entries more : List Entry) :
    numbered jobId entries <+: numbered jobId (entries ++ more) := by
  unfold numbered
  rw [List.mapIdx_append]
  exact List.prefix_append _ _

theorem numbered_concat (entries : List Entry) (entry : Entry) :
    numbered jobId (entries ++ [entry]) =
      numbered jobId entries ++ [entry.artifact jobId (entries.length + 1)] := by
  rw [numbered, List.mapIdx_concat, Nat.add_comm entries.length]
  rfl

/-- The versions of a job are numbered entries, and the next number is the one after. -/
structure Numbered (store : Store) (jobId : String) (entries : List Entry) : Prop where
  history : store.history jobId = .ok (numbered jobId entries)
  next : store.nextVersion jobId = entries.length + 1

theorem Numbered.of_empty (h : store.history jobId = .ok []) : store.Numbered jobId [] :=
  ⟨h, by rw [nextVersion, history_eq_nil_iff.mp h]; rfl⟩

theorem Numbered.congr {after : Store} (h : store.Numbered jobId entries)
    (hrows : after.rowsOf jobId = store.rowsOf jobId) : after.Numbered jobId entries :=
  ⟨(history_congr hrows).trans h.history, by rw [nextVersion, hrows]; exact h.next⟩

/-- What the next version of a numbered job becomes. -/
theorem Numbered.nextArtifact_eq (h : store.Numbered jobId entries) (entry : Entry) :
    store.nextArtifact entry.createdAt jobId entry.code entry.usedFallback =
      entry.artifact jobId (entries.length + 1) := by
  rw [nextArtifact, h.next]
  rfl

theorem Numbered.extend (h : store.Numbered jobId entries) {entry : Entry}
    (hh : Text.hasHalf entry.code = false) (hne : entry.code ≠ "") :
    (store.extend (store.nextArtifact entry.createdAt jobId entry.code
      entry.usedFallback)).Numbered jobId (entries ++ [entry]) := by
  have hfits := store.fits_nextArtifact entry.createdAt jobId hh hne entry.usedFallback
  refine ⟨?_, ?_⟩
  · refine (history_extend_self hfits).trans ?_
    rw [h.nextArtifact_eq, numbered_concat]
    exact congrArg (Except.map _) h.history
  · refine (nextVersion_extend_self hfits.next).trans ?_
    rw [List.length_append, List.length_singleton]
    exact congrArg (· + 1) h.next

end Store

/-- A call on the store of a studio. -/
inductive Call where
  | save (script : Script)
  | load (id : String)
  /-- Adds a version when the clock reads this. -/
  | append (now : Moment) (jobId code : String) (usedFallback : Bool)
  | history (jobId : String)
  | latest (jobId : String)
  /-- Closes the store and drops it; the next call opens it again. -/
  | reopen

/-- Adds a version when the clock reads `now`. -/
def Studio.appendAt (now : Moment) (jobId code : String) (usedFallback : Bool) :
    Action Artifact := do
  wait now
  appendVersion (.text jobId) (.text code) (.bool usedFallback)

namespace Call

def act : Call → Action Unit
  | save script => do let _ ← Studio.saveScript script
  | load id => do let _ ← Studio.script? (.text id)
  | append now jobId code usedFallback => do
    let _ ← Studio.appendAt now jobId code usedFallback
  | history jobId => do let _ ← Studio.history (.text jobId)
  | latest jobId => do let _ ← Studio.latest? (.text jobId)
  | reopen => do Studio.closeStore; Studio.dropStore

/-- A version of a job that can be kept: its id has a form in the store, and so has its code,
which is not empty. -/
def Acceptable (jobId code : String) : Prop :=
  Text.hasHalf jobId = false ∧ Text.hasHalf code = false ∧ code ≠ ""

instance (jobId code : String) : Decidable (Acceptable jobId code) :=
  inferInstanceAs (Decidable (_ ∧ _ ∧ _))

/-- What a call adds to the history of a job. -/
def addition? (jobId : String) : Call → Option Store.Entry
  | append now other code usedFallback =>
    if other = jobId ∧ Acceptable jobId code then some ⟨code, usedFallback, now⟩ else none
  | _ => none

def additions (jobId : String) (calls : List Call) : List Store.Entry :=
  calls.filterMap (addition? jobId)

theorem additions_append (jobId : String) (calls more : List Call) :
    additions jobId (calls ++ more) = additions jobId calls ++ additions jobId more :=
  List.filterMap_append

theorem additions_concat (jobId : String) (calls : List Call) (call : Call) :
    additions jobId (calls ++ [call]) =
      additions jobId calls ++ (call.addition? jobId).toList := by
  rw [additions_append]
  cases h : call.addition? jobId <;> simp [additions, h]

theorem additions_acceptable {jobId code : String} (now : Moment) (usedFallback : Bool)
    (h : Acceptable jobId code) (calls more : List Call) :
    additions jobId (calls ++ .append now jobId code usedFallback :: more) =
      (additions jobId calls ++ [⟨code, usedFallback, now⟩]) ++ additions jobId more := by
  have hadd : addition? jobId (.append now jobId code usedFallback) =
      some ⟨code, usedFallback, now⟩ := if_pos ⟨rfl, h⟩
  rw [additions_append, List.append_assoc]
  exact congrArg _ (List.filterMap_cons_some hadd)

theorem addition?_of_ne {jobId : String} {call : Call}
    (h : ∀ now code usedFallback, call ≠ .append now jobId code usedFallback) :
    call.addition? jobId = none := by
  cases call with
  | append now other code usedFallback =>
    refine if_neg ?_
    rintro ⟨rfl, _⟩
    exact h now code usedFallback rfl
  | _ => rfl

/-- The store after a call on a studio with this draw for the next script id. -/
def change (draw : Draw) (store : Store) : Call → Store
  | save script => store.keep (script.idOr draw) script
  | append now jobId code usedFallback =>
    if Acceptable jobId code then store.extend (store.nextArtifact now jobId code usedFallback)
    else store
  | _ => store

/-- A job that is numbered stays so: a call adds at most its own version. -/
theorem numbered_change {store : Store} {entries : String → List Store.Entry} (call : Call)
    (draw : Draw) (h : ∀ jobId, store.Numbered jobId (entries jobId)) (jobId : String) :
    (call.change draw store).Numbered jobId (entries jobId ++ (call.addition? jobId).toList) := by
  cases call with
  | append now other code usedFallback =>
    rw [change]
    by_cases ha : Acceptable other code
    · rw [if_pos ha]
      by_cases ho : other = jobId
      · subst ho
        have hadd : (append now other code usedFallback).addition? other =
            some ⟨code, usedFallback, now⟩ := if_pos ⟨rfl, ha⟩
        have hextended := @Store.Numbered.extend _ _ _ (h other) ⟨code, usedFallback, now⟩
          ha.2.1 ha.2.2
        rw [hadd]
        exact hextended
      · have hadd : (append now other code usedFallback).addition? jobId = none :=
          if_neg fun he => ho he.1
        rw [hadd, Option.toList_none, List.append_nil]
        exact (h jobId).congr (Store.rowsOf_extend_other ho)
    · have hadd : (append now other code usedFallback).addition? jobId = none := by
        refine if_neg ?_
        rintro ⟨rfl, hacc⟩
        exact ha hacc
      rw [if_neg ha, hadd, Option.toList_none, List.append_nil]
      exact h jobId
  | save script =>
    have hsame : (store.keep (script.idOr draw) script).rowsOf jobId = store.rowsOf jobId := by
      rw [Store.rowsOf, Store.keep_codes, Store.rowsOf]
    have hnone : (save script).addition? jobId = none := rfl
    rw [change, hnone, Option.toList_none, List.append_nil]
    exact (h jobId).congr hsame
  | load id | history id | latest id | reopen =>
    have hnone : entries jobId ++ (none : Option Store.Entry).toList = entries jobId :=
      List.append_nil _
    exact hnone.symm ▸ h jobId

theorem snd_on_discard (action : Action α) (studio : Studio) :
    (Action.on (do let _ ← action) studio).2 = (Action.on action studio).2 := by
  cases h : Action.on action studio with
  | mk result after =>
    cases result with
    | ok value => exact congrArg Prod.snd (Action.on_bind_ok h)
    | error failure => exact congrArg Prod.snd (Action.on_bind_error h)

end Call

/-- A store without a place is gone once it is closed, so only one with a place is reopened. -/
def Settings.Allows (settings : Settings) (calls : List Call) : Prop :=
  Call.reopen ∈ calls → settings.place ≠ none

namespace Studio

open Call (Acceptable additions)
open Store (numbered)

variable {studio after : Studio} {settings : Settings}

def afterCalls (studio : Studio) (calls : List Call) : Studio :=
  calls.foldl (fun studio call => (Action.on call.act studio).2) studio

def historyAfter (studio : Studio) (calls : List Call) (jobId : String) :
    Except Failure (List Artifact) :=
  (Action.on (Studio.history (.text jobId)) (studio.afterCalls calls)).1

/-- The versions of each job at the place of the settings are numbered entries. -/
def Holds (studio : Studio) (settings : Settings) (entries : String → List Store.Entry) : Prop :=
  ∀ jobId, (studio.contents settings.place).Numbered jobId (entries jobId)

variable {entries : String → List Store.Entry}

/-- A studio whose clock reads another moment serves as before. -/
theorem Serves.wait (hs : studio.Serves settings) (now : Moment) :
    ({ studio with now } : Studio).Serves settings :=
  ⟨hs.configured, hs.openable, hs.connected⟩

theorem on_appendAt (now : Moment) (jobId code : String) (usedFallback : Bool) :
    Action.on (appendAt now jobId code usedFallback) studio =
      Action.on (appendVersion (.text jobId) (.text code) (.bool usedFallback))
        { studio with now } := Action.on_bind_ok rfl

/-- An acceptable version is added, under the next number of its job. -/
theorem Serves.append_acceptable (hs : studio.Serves settings) {jobId code : String}
    (now : Moment) (usedFallback : Bool) (ha : Acceptable jobId code) :
    ∃ after, Action.on (appendAt now jobId code usedFallback) studio =
        (.ok ((studio.contents settings.place).nextArtifact now jobId code usedFallback), after) ∧
      Within studio after settings ∧
      after.contents settings.place = (studio.contents settings.place).extend
        ((studio.contents settings.place).nextArtifact now jobId code usedFallback) := by
  rw [on_appendAt]
  obtain ⟨after, hon, hwithin, hcontents⟩ := (hs.wait now).append_ok
    (Store.update_eq (studio.contents settings.place) now ha.1 ha.2.1 ha.2.2 usedFallback)
  exact ⟨after, hon, ⟨hwithin.serves, hwithin.others⟩, hcontents⟩

theorem Serves.append_unacceptable (hs : studio.Serves settings) {jobId code : String}
    (now : Moment) (usedFallback : Bool) (ha : ¬ Acceptable jobId code) :
    ∃ failure after,
      Action.on (appendAt now jobId code usedFallback) studio = (.error failure, after) ∧
      after.Serves settings ∧ ∀ place, after.contents place = studio.contents place := by
  have hwhy : Text.hasHalf jobId = true ∨ Text.hasHalf code = true ∨ code = "" := by
    simpa only [Acceptable, not_and_or, Bool.not_eq_false, not_not] using ha
  obtain ⟨failure, hu⟩ := Store.update_error now usedFallback hwhy
  rw [on_appendAt]
  exact ⟨failure, (hs.wait now).append_error hu⟩

theorem Within.of_contents (hs : after.Serves settings)
    (hc : ∀ place, after.contents place = studio.contents place) :
    Within studio after settings :=
  ⟨hs, fun place _ => hc place⟩

theorem Within.trans {between : Studio} (h : Within studio between settings)
    (h' : Within between after settings) : Within studio after settings :=
  ⟨h'.serves, fun place hne => (h'.others place hne).trans (h.others place hne)⟩

/-- One call changes the store at the place of the settings as the call says, and no other. -/
theorem Serves.act_contents (hs : studio.Serves settings) (call : Call)
    (hr : call = .reopen → settings.place ≠ none) :
    Within studio (Action.on call.act studio).2 settings ∧
      (Action.on call.act studio).2.contents settings.place =
        call.change (studio.draws 0) (studio.contents settings.place) := by
  cases call with
  | save script =>
    obtain ⟨after, hon, hwithin, hcontents, _⟩ := hs.saveScript script
    rw [Call.act, Call.snd_on_discard, hon]
    exact ⟨hwithin, hcontents⟩
  | load id =>
    obtain ⟨after, hon, hserves, hcontents⟩ := hs.lookUp fun store => store.scriptOf? (.text id)
    rw [Call.act, Call.snd_on_discard, Studio.script?, hon]
    exact ⟨.of_contents hserves hcontents, hcontents _⟩
  | history jobId =>
    obtain ⟨after, hon, hserves, hcontents⟩ := hs.lookUp fun store => store.historyOf (.text jobId)
    rw [Call.act, Call.snd_on_discard, Studio.history, hon]
    exact ⟨.of_contents hserves hcontents, hcontents _⟩
  | latest jobId =>
    obtain ⟨after, hon, hserves, hcontents⟩ := hs.lookUp fun store => store.latestOf (.text jobId)
    rw [Call.act, Call.snd_on_discard, Studio.latest?, hon]
    exact ⟨.of_contents hserves hcontents, hcontents _⟩
  | reopen =>
    obtain ⟨after, hon, hserves, hcontents⟩ := hs.reopen (hr rfl)
    rw [Call.act, hon]
    exact ⟨.of_contents hserves hcontents, hcontents _⟩
  | append now jobId code usedFallback =>
    rw [Call.act, Call.snd_on_discard]
    by_cases ha : Acceptable jobId code
    · obtain ⟨after, hon, hwithin, hcontents⟩ := hs.append_acceptable now usedFallback ha
      rw [hon, Call.change, if_pos ha]
      exact ⟨hwithin, hcontents⟩
    · obtain ⟨failure, after, hon, hserves, hcontents⟩ := hs.append_unacceptable now usedFallback ha
      rw [hon, Call.change, if_neg ha]
      exact ⟨.of_contents hserves hcontents, hcontents _⟩

/-- One call keeps every history numbered and adds at most its own version. -/
theorem Serves.act (hs : studio.Serves settings) (h : studio.Holds settings entries) (call : Call)
    (hr : call = .reopen → settings.place ≠ none) :
    Within studio (Action.on call.act studio).2 settings ∧
      (Action.on call.act studio).2.Holds settings fun jobId =>
        entries jobId ++ (call.addition? jobId).toList := by
  obtain ⟨hwithin, hcontents⟩ := hs.act_contents call hr
  refine ⟨hwithin, fun jobId => ?_⟩
  rw [hcontents]
  exact Call.numbered_change call (studio.draws 0) h jobId

theorem afterCalls_append (calls more : List Call) :
    studio.afterCalls (calls ++ more) = (studio.afterCalls calls).afterCalls more :=
  List.foldl_append

theorem afterCalls_concat (calls : List Call) (call : Call) :
    studio.afterCalls (calls ++ [call]) = (Action.on call.act (studio.afterCalls calls)).2 :=
  afterCalls_append calls [call]

/-- Calls leave the studio serving and every place but that of its settings as it was. -/
theorem Serves.within_afterCalls (hs : studio.Serves settings) {calls : List Call}
    (ha : settings.Allows calls) : Within studio (studio.afterCalls calls) settings := by
  induction calls using List.reverseRecOn with
  | nil => exact ⟨hs, fun _ _ => rfl⟩
  | append_singleton calls call ih =>
    have hwithin := ih fun hmem => ha (List.mem_append_left _ hmem)
    obtain ⟨hstep, _⟩ := hwithin.serves.act_contents call fun he =>
      ha (List.mem_append_right _ (by simp [he]))
    rw [afterCalls_concat]
    exact hwithin.trans hstep

/-- After any calls every history is what the calls added, numbered from the first. -/
theorem Serves.afterCalls (hs : studio.Serves settings) (h : studio.Holds settings fun _ => [])
    {calls : List Call} (ha : settings.Allows calls) :
    Within studio (studio.afterCalls calls) settings ∧
      (studio.afterCalls calls).Holds settings fun jobId => additions jobId calls := by
  refine ⟨hs.within_afterCalls ha, ?_⟩
  -- From the end, since the last call acts on what the ones before it left.
  induction calls using List.reverseRecOn with
  | nil => exact h
  | append_singleton calls call ih =>
    have hallowed : settings.Allows calls := fun hmem => ha (List.mem_append_left _ hmem)
    obtain ⟨_, hnext⟩ := (hs.within_afterCalls hallowed).serves.act (ih hallowed) call fun he =>
      ha (List.mem_append_right _ (by simp [he]))
    intro jobId
    simp only [afterCalls_concat, Call.additions_concat]
    exact hnext jobId

/-- What the store answers after calls, and what further calls change. -/
structure KeepsVersions (studio : Studio) (settings : Settings) (calls : List Call) : Prop where
  /-- The history of a job is what was added to it, in order, with the numbers from one. -/
  history : ∀ jobId, Text.hasHalf jobId = false →
    studio.historyAfter calls jobId = .ok (numbered jobId (additions jobId calls))
  /-- The latest version is the last one of the history, if there is one. -/
  latest : ∀ jobId, Text.hasHalf jobId = false →
    (Action.on (Studio.latest? (.text jobId)) (studio.afterCalls calls)).1 =
      .ok (numbered jobId (additions jobId calls)).getLast?
  /-- An acceptable version is answered with its artifact, which is in every later history. -/
  accepts : ∀ now jobId code usedFallback, Acceptable jobId code →
    ∃ artifact, (Action.on (appendAt now jobId code usedFallback)
        (studio.afterCalls calls)).1 = .ok artifact ∧
      artifact = ⟨jobId, code, usedFallback, (additions jobId calls).length + 1, now⟩ ∧
      ∀ more, settings.Allows more → ∃ versions,
        studio.historyAfter (calls ++ .append now jobId code usedFallback :: more) jobId =
          .ok versions ∧ artifact ∈ versions
  /-- Any other version, such as one without code, fails and changes nothing. -/
  refuses : ∀ now jobId code usedFallback, ¬ Acceptable jobId code → ∃ failure after,
    Action.on (appendAt now jobId code usedFallback) (studio.afterCalls calls) =
      (.error failure, after) ∧
    ∀ place, after.contents place = (studio.afterCalls calls).contents place
  /-- Only additions to a job change what its history is answered with. -/
  frame : ∀ jobId call, settings.Allows [call] →
    (∀ now code usedFallback, call ≠ .append now jobId code usedFallback) →
    studio.historyAfter (calls ++ [call]) jobId = studio.historyAfter calls jobId
  /-- A history is the beginning of every later one. -/
  grows : ∀ jobId more, Text.hasHalf jobId = false → settings.Allows more →
    ∃ earlier later, studio.historyAfter calls jobId = .ok earlier ∧
      studio.historyAfter (calls ++ more) jobId = .ok later ∧ earlier <+: later
  /-- No other place is touched. -/
  elsewhere : ∀ place, place ≠ settings.place →
    (studio.afterCalls calls).contents place = studio.contents place
  /-- An id with a lone half has no history; asking for it changes nothing. -/
  unnamed : ∀ jobId, Text.hasHalf jobId = true → ∃ failure after,
    Action.on (Studio.history (.text jobId)) (studio.afterCalls calls) = (.error failure, after) ∧
    ∀ place, after.contents place = (studio.afterCalls calls).contents place

theorem historyAfter_eq (hs : studio.Serves settings) (h : studio.Holds settings fun _ => [])
    {calls : List Call} (ha : settings.Allows calls) {jobId : String}
    (hj : Text.hasHalf jobId = false) :
    studio.historyAfter calls jobId = .ok (numbered jobId (additions jobId calls)) := by
  obtain ⟨hwithin, hholds⟩ := hs.afterCalls h ha
  obtain ⟨after, hon, _, _⟩ :=
    hwithin.serves.lookUp fun store => store.historyOf (.text jobId)
  rw [historyAfter, Studio.history, hon, Store.historyOf_text hj, (hholds jobId).history]

theorem historyAfter_half (hs : studio.Serves settings) (h : studio.Holds settings fun _ => [])
    {jobId : String} (hj : Text.hasHalf jobId = true) :
    ∃ failure, ∀ calls, settings.Allows calls →
      ∃ after, Action.on (Studio.history (.text jobId)) (studio.afterCalls calls) =
        (.error failure, after) ∧
      ∀ place, after.contents place = (studio.afterCalls calls).contents place := by
  obtain ⟨failure, hfail⟩ := Store.historyOf_half hj
  refine ⟨failure, fun calls ha => ?_⟩
  obtain ⟨hwithin, _⟩ := hs.afterCalls h ha
  obtain ⟨after, hon, _, hcontents⟩ :=
    hwithin.serves.lookUp fun store => store.historyOf (.text jobId)
  rw [hfail] at hon
  exact ⟨after, hon, hcontents⟩

theorem Allows.append {calls more : List Call} (h : settings.Allows calls)
    (h' : settings.Allows more) : settings.Allows (calls ++ more) :=
  fun hmem => (List.mem_append.mp hmem).elim h h'

end Studio

open Studio Call in
/-- Calls on an empty store, in any order and number, keep for each job the accepted
versions and nothing else: numbered without a gap in the order of the calls, never changed,
and untouched by calls on other jobs, by scripts and, at a place, by reopening. -/
theorem store_keeps_versions {studio : Studio} {settings : Settings}
    (hs : studio.Serves settings)
    (hempty : ∀ jobId, (studio.contents settings.place).history jobId = .ok []) (calls : List Call)
    (ha : settings.Allows calls) : studio.KeepsVersions settings calls := by
  -- Every part follows from the invariant after `calls`, or after `calls` and some more.
  have hholds : studio.Holds settings fun _ => [] := fun jobId => .of_empty (hempty jobId)
  obtain ⟨hwithin, hafter⟩ := hs.afterCalls hholds ha
  have hserves := hwithin.serves
  refine ⟨fun jobId hj => historyAfter_eq hs hholds ha hj, fun jobId hj => ?latest,
    fun now jobId code usedFallback hacc => ?accepts,
    fun now jobId code usedFallback hnot => ?refuses, fun jobId call hcall hother => ?frame,
    fun jobId more hj hmore => ?grows, hwithin.others, fun jobId hj => ?unnamed⟩
  case latest =>
    obtain ⟨after, hon, _, _⟩ := hserves.lookUp fun store => store.latestOf (.text jobId)
    rw [Studio.latest?, hon, Store.latestOf, Store.historyOf_text hj, (hafter jobId).history]
    rfl
  case accepts =>
    obtain ⟨after, hon, _, _⟩ := hserves.append_acceptable now usedFallback hacc
    refine ⟨_, by rw [hon], (hafter jobId).nextArtifact_eq ⟨code, usedFallback, now⟩,
      fun more hmore => ?_⟩
    have hallowed : settings.Allows (calls ++ .append now jobId code usedFallback :: more) :=
      Allows.append ha fun hmem => hmore (by simpa using hmem)
    refine ⟨_, historyAfter_eq hs hholds hallowed hacc.1, ?_⟩
    rw [additions_acceptable now usedFallback hacc,
      (hafter jobId).nextArtifact_eq ⟨code, usedFallback, now⟩]
    refine (Store.numbered_append _ _).subset ?_
    rw [Store.numbered_concat]
    exact List.mem_append_right _ (List.mem_singleton.mpr rfl)
  case refuses =>
    obtain ⟨failure, after, hon, _, hcontents⟩ := hserves.append_unacceptable now usedFallback hnot
    exact ⟨failure, after, hon, hcontents⟩
  case frame =>
    have hallowed := Allows.append ha hcall
    cases hj : Text.hasHalf jobId with
    | true =>
      obtain ⟨failure, hfail⟩ := historyAfter_half hs hholds hj
      obtain ⟨_, hbefore, _⟩ := hfail calls ha
      obtain ⟨_, hlater, _⟩ := hfail _ hallowed
      rw [historyAfter, historyAfter, hbefore, hlater]
    | false =>
      have hnone : call.addition? jobId = none := addition?_of_ne hother
      rw [historyAfter_eq hs hholds hallowed hj, historyAfter_eq hs hholds ha hj,
        Call.additions_concat, hnone, Option.toList_none, List.append_nil]
  case grows =>
    refine ⟨_, _, historyAfter_eq hs hholds ha hj,
      historyAfter_eq hs hholds (Allows.append ha hmore) hj, ?_⟩
    rw [Call.additions_append]
    exact Store.numbered_append _ _
  case unnamed =>
    obtain ⟨failure, hfail⟩ := historyAfter_half hs hholds hj
    exact ⟨failure, hfail calls ha⟩

namespace Sample

def kept : Settings := { settings with storePath := "/jobs/store.db" }

/-- A studio with an empty store at a path. -/
def studio : Studio :=
  { newStudio 0 with settings := some kept }

theorem studio_serves : studio.Serves kept := by
  refine ⟨Or.inl rfl, fun location hl => ?_, fun _ hc => by contradiction⟩
  obtain rfl := Option.some.inj hl
  exact ⟨rfl, by decide⟩

/-- Two hours and a little more than a second later. -/
def later : Moment := ⟨now.date, now.counted, .of 14 0 1 250000, some .universal⟩

/-- Two jobs in turn, a refused version, a script, and a store that is opened again. -/
def calls : List Call :=
  [.append now "a" "x" false, .append now "b" "y" true, .save script, .append now "a" "" false,
    .reopen, .append later "a" "z" true]

theorem calls_keep_versions : studio.Serves kept ∧
    (∀ jobId, (studio.contents kept.place).history jobId = .ok []) ∧ kept.Allows calls ∧
    studio.historyAfter calls "a" =
      .ok [⟨"a", "x", false, 1, now⟩, ⟨"a", "z", true, 2, later⟩] := by
  have hempty : ∀ jobId, (studio.contents kept.place).history jobId = .ok [] := fun _ =>
    Store.history_eq_nil_iff.mpr rfl
  have ha : kept.Allows calls := fun _ => by decide
  refine ⟨studio_serves, hempty, ha, ?_⟩
  rw [(store_keeps_versions studio_serves hempty calls ha).history "a" (by decide)]
  exact congrArg Except.ok (by decide)

theorem studio_empty : studio.Holds kept fun _ => [] := fun _ =>
  .of_empty (Store.history_eq_nil_iff.mpr rfl)

/-- An id that is a lone half has no history, not even an empty one. -/
theorem half_has_no_history :
    ¬ ∀ jobId, studio.historyAfter [] jobId =
      .ok (Store.numbered jobId (Call.additions jobId [])) := by
  intro h
  have hhalf : Text.hasHalf (String.ofList [Text.halfChar 0xD800]) = true := by
    have hd : Text.isHalf 0xD800 = true := rfl
    simp [Text.hasHalf, Text.keepsHalf, Text.halfOf?_halfChar hd]
  obtain ⟨failure, hfail⟩ := Studio.historyAfter_half studio_serves studio_empty hhalf
  obtain ⟨after, hon, _⟩ := hfail [] (fun hmem => by contradiction)
  have hok := h (String.ofList [Text.halfChar 0xD800])
  rw [Studio.historyAfter, hon] at hok
  contradiction

end Sample

end Storyboard