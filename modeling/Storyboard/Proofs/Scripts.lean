import Storyboard.Proofs.Calls
import Storyboard.Proofs.Course

/-!
# Scripts in the store

A script that was kept under an id is what the id names until another is kept under it. Each
call says what it makes of the store, and but for a script that is kept under the id none
touches the entry of the id; the induction is on the calls. What the entry is read as is then
a matter of its record alone. A script without an id takes that of the next draw. As long as
the draws differ from each other and from the ids that are given, every call leaves the draws
that are left without a script, so an id that is made up is a new one.
-/

namespace Storyboard

open Checking (Checked Origin)
open Results (map_ok_iff)

namespace Text

theorem hasHalf_hexDigits (width n : Nat) :
    hasHalf (String.ofList (hexDigits width n)) = false := by
  have hdigit : ∀ d < 16, keepsHalf (hexDigit d) = false := by decide
  simp only [hasHalf, String.toList_ofList, List.any_eq_false]
  intro c hc
  obtain ⟨d, hd, rfl⟩ := mem_hexDigits hc
  simp [hdigit d hd]

/-- Numbers that fit their digits are told apart by them. -/
theorem hexDigits_injective {width n m : Nat} (hn : n < 16 ^ width) (hm : m < 16 ^ width)
    (h : hexDigits width n = hexDigits width m) : n = m := by
  induction width generalizing n m with
  | zero =>
    rw [pow_zero] at hn hm
    omega
  | succ width ih =>
    rw [pow_succ] at hn hm
    obtain ⟨hfront, hlast⟩ := List.append_inj' h rfl
    have hquotient : n / 16 = m / 16 := ih (by omega) (by omega) hfront
    have hn' := hexValue?_hexDigit (n % 16) (Nat.mod_lt _ (by decide))
    have hm' := hexValue?_hexDigit (m % 16) (Nat.mod_lt _ (by decide))
    rw [List.singleton_inj.mp hlast, hm'] at hn'
    have hremainder : m % 16 = n % 16 := Option.some.inj hn'
    omega

end Text

/-- Different draws make different ids. -/
theorem generatedScriptId_injective {first second : Draw}
    (h : generatedScriptId first = generatedScriptId second) : first = second := by
  have hdigits := String.ofList_injective h
  exact Fin.ext (Text.hexDigits_injective first.isLt second.isLt hdigits)

theorem Script.hasHalf_idOr (script : Script) (draw : Draw) :
    Text.hasHalf (script.idOr draw) = Text.hasHalf script.id := by
  unfold Script.idOr
  split
  · next h =>
    rw [String.isEmpty_iff.mp h]
    exact Text.hasHalf_hexDigits _ _
  · rfl

namespace Store

variable {store : Store} {id other : String} {script : Script}

theorem lookup_keep_self (h : ({ script with id } : Script).IsWhole) :
    (store.keep id script).scripts.lookup id = some ({ script with id } : Script).record := by
  rw [keep, write_ok_iff.mpr ⟨h, rfl⟩]
  exact (Keyed.lookup_put _ _ _ _).trans (if_pos rfl)

theorem lookup_keep_other (h : other ≠ id) :
    (store.keep id script).scripts.lookup other = store.scripts.lookup other := by
  rw [keep]
  cases write id script with
  | error failure => rfl
  | ok body => exact (Keyed.lookup_put _ _ _ _).trans (if_neg h)

end Store

namespace Studio

variable {studio after : Studio} {settings : Settings} {id : String} {script : Script}

/-- Keeping the script is answered with this id and leads to this studio. -/
def Saves (studio : Studio) (script : Script) (id : String) (after : Studio) : Prop :=
  Action.on (saveScript script) studio = (.ok id, after)

/-- None of the calls keeps a script under the id. -/
def Spares (id : String) : Studio → List Call → Prop
  | _, [] => True
  | studio, call :: calls =>
    (∀ script after, call = .save script → ¬ studio.Saves script id after) ∧
      (Action.on call.act studio).2.Spares id calls

theorem spares_of_no_save {calls : List Call} (h : ∀ script, .save script ∉ calls) (id : String)
    (studio : Studio) : studio.Spares id calls := by
  induction calls generalizing studio with
  | nil => trivial
  | cons call calls ih =>
    refine ⟨fun script after he => ?_, ih (fun script hm => h script (.tail _ hm)) _⟩
    subst he
    exact absurd List.mem_cons_self (h script)

/-- What looking up the script of an id is answered with. -/
def read (studio : Studio) (id : String) : Except Failure (Option Script) :=
  (Action.on (script? (.text id)) studio).1

theorem Serves.read_eq (hs : studio.Serves settings) (id : String) :
    studio.read id = (studio.contents settings.place).scriptOf? (.text id) := by
  obtain ⟨_, hon, _⟩ := hs.lookUp fun store => store.scriptOf? (.text id)
  rw [read, script?, hon]

/-- A call that keeps no script under an id leaves what the store has under it. -/
theorem Serves.lookup_change (hs : studio.Serves settings) {call : Call}
    (h : ∀ script after, call = .save script → ¬ studio.Saves script id after) :
    (call.change (studio.draws 0) (studio.contents settings.place)).scripts.lookup id =
      (studio.contents settings.place).scripts.lookup id := by
  cases call with
  | save script =>
    by_cases hid : id = script.idOr (studio.draws 0)
    · -- The answer was not this id, so the script had no form.
      obtain ⟨after, hon, _⟩ := hs.saveScript script
      rw [Call.change, Store.keep]
      cases hw : Store.write (script.idOr (studio.draws 0)) script with
      | error failure => rfl
      | ok body =>
        rw [hw, ← hid] at hon
        exact absurd hon (h script after rfl)
    · exact Store.lookup_keep_other hid
  | append now jobId code usedFallback =>
    rw [Call.change]
    split
    · rw [Store.extend_scripts]
    · rfl
  | load | history | latest | reopen => rfl

theorem Serves.lookup_afterCalls (hs : studio.Serves settings) {calls : List Call}
    (ha : settings.Allows calls) (h : studio.Spares id calls) :
    ((studio.afterCalls calls).contents settings.place).scripts.lookup id =
      (studio.contents settings.place).scripts.lookup id := by
  induction calls generalizing studio with
  | nil => rfl
  | cons call calls ih =>
    obtain ⟨hcall, hrest⟩ := h
    obtain ⟨hwithin, hcontents⟩ := hs.act_contents call fun he => ha (by simp [he])
    have hlast := ih hwithin.serves (fun hmem => ha (List.mem_cons_of_mem _ hmem)) hrest
    rw [hcontents, hs.lookup_change hcall] at hlast
    exact hlast

/-- What the id of a kept script is read as. -/
structure ReadsBack (studio : Studio) (id : String) (script : Script) : Prop where
  /-- The script under this id, with every other field as it was. -/
  found : (∀ scene ∈ script.scenes, scene.duration.isFinite = true) →
    studio.read id = .ok (some { script with id })
  /-- A report on the scenes of infinite length, and on nothing else. -/
  lost : (∃ scene ∈ script.scenes, scene.duration.isInf = true) →
    studio.read id = .error (.rejected ⟨Script.title, .text, script.lostLengths⟩)

/-- The script is what its id is read as after any calls that keep no other under the id. -/
def Endures (studio : Studio) (settings : Settings) (id : String) (script : Script) : Prop :=
  ∀ calls, settings.Allows calls → studio.Spares id calls →
    (studio.afterCalls calls).ReadsBack id script

theorem Serves.endures (hs : studio.Serves settings) (hsound : script.IsSound)
    (hwhole : ({ script with id } : Script).IsWhole)
    (hl : (studio.contents settings.place).scripts.lookup id =
      some ({ script with id } : Script).record) :
    studio.Endures settings id script := by
  intro calls ha hspares
  have hread : (studio.afterCalls calls).read id =
      if script.lostLengths.isEmpty then .ok (some { script with id })
      else .error (.rejected ⟨Script.title, .text, script.lostLengths⟩) := by
    rw [(hs.within_afterCalls ha).serves.read_eq, Store.scriptOf?_text hwhole.id]
    have hnamed : ({ script with id } : Script).IsSound := hsound
    exact Store.script?_kept hnamed hwhole ((hs.lookup_afterCalls ha hspares).trans hl)
  refine ⟨fun hfinite => ?_, fun hlost => ?_⟩
  · have hnone : script.lostLengths = [] := by
      refine Script.lostLengths_eq_nil_iff.mpr fun scene hm => ?_
      have hfin := hfinite scene hm
      rw [Checking.isFinite_of_pos (hsound scene hm).lasts] at hfin
      simpa using hfin
    rw [hread, hnone]
    rfl
  · have hsome : script.lostLengths ≠ [] := by
      intro hnone
      obtain ⟨scene, hm, hinf⟩ := hlost
      rw [Script.lostLengths_eq_nil_iff.mp hnone scene hm] at hinf
      contradiction
    rw [hread, if_neg (by simpa using hsome)]

/-- A script that is answered with an id is held under it by its record. -/
theorem Serves.saved (hs : studio.Serves settings) (h : studio.Saves script id after) :
    id = script.idOr (studio.draws 0) ∧ ({ script with id } : Script).IsWhole ∧
      Within studio after settings ∧
      after.contents settings.place = (studio.contents settings.place).keep id script := by
  obtain ⟨_, hon, hwithin, hcontents, _⟩ := hs.saveScript script
  rw [Saves, hon] at h
  obtain ⟨hresult, rfl⟩ := Prod.mk.inj h
  obtain ⟨body, hw, rfl⟩ := map_ok_iff.mp hresult
  exact ⟨rfl, (Store.write_ok_iff.mp hw).1, hwithin, hcontents⟩

theorem Serves.saved_endures (hs : studio.Serves settings) (hsound : script.IsSound)
    (h : studio.Saves script id after) : after.Endures settings id script := by
  obtain ⟨_, hwhole, hwithin, hcontents⟩ := hs.saved h
  refine hwithin.serves.endures hsound hwhole ?_
  rw [hcontents]
  exact Store.lookup_keep_self hwhole

/-- What follows when a script was kept under an id. -/
structure Stored (studio after : Studio) (settings : Settings) (id : String) (script : Script) :
    Prop where
  /-- The id is the script's own, or a generated one if it has none. -/
  named : id = script.idOr (studio.draws 0)
  endures : after.Endures settings id script
  /-- Whatever was called in between, a script kept under the same id takes its place. -/
  replaced : ∀ calls, settings.Allows calls → ∀ origin input other later,
    Script.check origin input = .accepted other → (after.afterCalls calls).Saves other id later →
      later.Endures settings id other
  others : ∀ other, other ≠ id → after.read other = studio.read other
  histories : ∀ jobId, after.historyAfter [] jobId = studio.historyAfter [] jobId

theorem Serves.stored (hs : studio.Serves settings) (hsound : script.IsSound)
    (h : studio.Saves script id after) : Stored studio after settings id script := by
  obtain ⟨hnamed, _, hwithin, hcontents⟩ := hs.saved h
  refine ⟨hnamed, hs.saved_endures hsound h,
    fun calls ha origin input other later hc hsave => ?replaced, fun other hne => ?others,
    fun jobId => ?histories⟩
  case replaced =>
    exact (hwithin.serves.within_afterCalls ha).serves.saved_endures
      (Script.sound_of_check hc) hsave
  case others =>
    rw [hwithin.serves.read_eq, hs.read_eq, hcontents]
    exact Store.scriptOf?_congr (Store.lookup_keep_other hne)
  case histories =>
    obtain ⟨_, hbefore, _⟩ := hs.lookUp fun store => store.historyOf (.text jobId)
    obtain ⟨_, hafter, _⟩ := hwithin.serves.lookUp fun store => store.historyOf (.text jobId)
    have hsame : after.historyAfter [] jobId =
        ((studio.contents settings.place).keep id script).historyOf (.text jobId) := by
      rw [← hcontents]
      exact congrArg Prod.fst hafter
    rw [hsame, Store.historyOf_congr (Store.keep_codes _ id script)]
    exact (congrArg Prod.fst hbefore).symm

theorem Serves.exists_saves_iff (hs : studio.Serves settings) :
    (∃ id after, studio.Saves script id after) ↔ script.IsWhole := by
  constructor
  · rintro ⟨id, after, h⟩
    obtain ⟨hnamed, hwhole, _⟩ := hs.saved h
    have hid : Text.hasHalf script.id = false := by
      rw [← script.hasHalf_idOr (studio.draws 0), ← hnamed]
      exact hwhole.id
    exact hwhole.named hid
  · intro hwhole
    have hid : Text.hasHalf (script.idOr (studio.draws 0)) = false := by
      rw [Script.hasHalf_idOr]
      exact hwhole.id
    obtain ⟨after, hon, _⟩ := hs.saveScript script
    rw [Store.write_ok_iff.mpr ⟨hwhole.named hid, rfl⟩] at hon
    exact ⟨_, after, hon⟩

section Fresh

open Storyboard.Action (KeepsSupplies)

theorem keepsSupplies_lookUp (find : Store → Except Failure α) :
    KeepsSupplies (do Action.of (find (← Studio.store))) :=
  (keepsSupplies_connect.bind fun _ => .of _).bind fun _ => .of _

theorem keepsSupplies_reopen : KeepsSupplies (do closeStore; dropStore) :=
  (keepsSupplies_connect.bind fun _ => keepsSupplies_reconnect _).bind fun _ _ => ⟨rfl, rfl⟩

theorem keepsSupplies_appendVersion (jobId code usedFallback : Json) :
    KeepsSupplies (appendVersion jobId code usedFallback) :=
  keepsSupplies_connect.bind fun _ => (KeepsSupplies.of _).bind fun _ =>
    keepsSupplies_get.bind fun _ => (KeepsSupplies.of _).bind fun _ =>
      (keepsSupplies_reconnect _).bind fun _ => fun _ => ⟨rfl, rfl⟩

/-- A script without an id takes a draw. -/
def taken : Call → Nat
  | .save script => if script.id.isEmpty then 1 else 0
  | _ => 0

theorem Serves.act_draws (hs : studio.Serves settings) (call : Call) :
    (Action.on call.act studio).2.draws = fun number => studio.draws (number + taken call) := by
  cases call with
  | save script =>
    obtain ⟨after, hon, _, _, hdraws⟩ := hs.saveScript script
    rw [Call.act, Call.snd_on_discard, hon, hdraws, drawsAfter, taken]
    split <;> rfl
  | load id =>
    rw [Call.act, Call.snd_on_discard]
    exact (keepsSupplies_lookUp (fun store => store.scriptOf? (.text id)) studio).2
  | history jobId =>
    rw [Call.act, Call.snd_on_discard]
    exact (keepsSupplies_lookUp (fun store => store.historyOf (.text jobId)) studio).2
  | latest jobId =>
    rw [Call.act, Call.snd_on_discard]
    exact (keepsSupplies_lookUp (fun store => store.latestOf (.text jobId)) studio).2
  | append now jobId code usedFallback =>
    rw [Call.act, Call.snd_on_discard, on_appendAt]
    exact (keepsSupplies_appendVersion _ _ _ { studio with now }).2
  | reopen => exact (keepsSupplies_reopen studio).2

/-- The next draws are different, and no script is kept under any of their ids. -/
structure Fresh (studio : Studio) (settings : Settings) (count : Nat) : Prop where
  different : ∀ i < count, ∀ j < count, studio.draws i = studio.draws j → i = j
  unused : ∀ i < count,
    (studio.contents settings.place).scripts.lookup (generatedScriptId (studio.draws i)) = none

/-- No script is given the id of one of the next draws. -/
def Avoids (studio : Studio) (count : Nat) (calls : List Call) : Prop :=
  ∀ script, .save script ∈ calls → ∀ i < count, script.id ≠ generatedScriptId (studio.draws i)

/-- A call keeps no script under the ids of the draws that it leaves. -/
theorem Serves.unused_change (hs : studio.Serves settings) {count : Nat}
    (h : studio.Fresh settings (count + 1)) {call : Call} (ha : studio.Avoids (count + 1) [call])
    {i : Nat} (hi : i < count) :
    (call.change (studio.draws 0) (studio.contents settings.place)).scripts.lookup
      (generatedScriptId (studio.draws (i + taken call))) = none := by
  have hbound : i + taken call < count + 1 := by
    unfold taken
    split
    · split <;> omega
    · omega
  rw [hs.lookup_change fun script after he hsave => ?_]
  · exact h.unused _ hbound
  · -- An id that is given is avoided, and one that is made up is that of another draw.
    subst he
    have hname := (hs.saved hsave).1
    by_cases hid : script.id.isEmpty = true
    · rw [Script.idOr, if_pos hid, taken, if_pos hid] at hname
      have hsame := h.different (i + 1) (by omega) 0 (by omega) (generatedScriptId_injective hname)
      omega
    · rw [Script.idOr, if_neg hid] at hname
      exact ha script List.mem_cons_self _ hbound hname.symm

theorem Serves.fresh_act (hs : studio.Serves settings) {count : Nat}
    (h : studio.Fresh settings (count + 1)) {call : Call} {calls : List Call}
    (ha : studio.Avoids (count + 1) (call :: calls))
    (hr : call = .reopen → settings.place ≠ none) :
    (Action.on call.act studio).2.Fresh settings count ∧
      (Action.on call.act studio).2.Avoids count calls := by
  have hdraws := hs.act_draws call
  have htaken : taken call ≤ 1 := by
    unfold taken
    split
    · split <;> omega
    · omega
  obtain ⟨_, hcontents⟩ := hs.act_contents call hr
  refine ⟨⟨fun i hi j hj he => ?different, fun i hi => ?unused⟩, fun script hm i hi => ?avoids⟩
  case different =>
    rw [hdraws] at he
    have hsame := h.different _ (by omega) _ (by omega) he
    omega
  case unused =>
    have hone : studio.Avoids (count + 1) [call] := fun script hm => ha script
      (List.mem_singleton.mp hm ▸ List.mem_cons_self)
    rw [hcontents, hdraws]
    exact hs.unused_change h hone hi
  case avoids =>
    rw [hdraws]
    exact ha script (List.mem_cons_of_mem _ hm) _ (by omega)

/-- After calls that avoid the next draws, those of them that are left are still fresh. -/
theorem Serves.fresh_afterCalls (hs : studio.Serves settings) {calls : List Call}
    (hallowed : settings.Allows calls) {count : Nat}
    (h : studio.Fresh settings (calls.length + count))
    (ha : studio.Avoids (calls.length + count) calls) :
    (studio.afterCalls calls).Fresh settings count := by
  induction calls generalizing studio with
  | nil =>
    rw [List.length_nil, Nat.zero_add] at h
    exact h
  | cons call calls ih =>
    have hcount : (call :: calls).length + count = calls.length + count + 1 := by
      rw [List.length_cons]
      omega
    rw [hcount] at h ha
    have hr : call = .reopen → settings.place ≠ none := fun he => hallowed (by simp [he])
    obtain ⟨hfresh, havoids⟩ := hs.fresh_act h ha hr
    exact ih (hs.act_contents call hr).1.serves
      (fun hmem => hallowed (List.mem_cons_of_mem _ hmem)) hfresh havoids

/-- An id that is made up when its draw is fresh names nothing so far. -/
theorem Serves.read_fresh (hs : studio.Serves settings) (h : studio.Fresh settings 1)
    (hid : script.id = "") (hsave : studio.Saves script id after) :
    studio.read id = .ok none := by
  obtain ⟨hname, hwhole, _⟩ := hs.saved hsave
  have hdrawn : id = generatedScriptId (studio.draws 0) := by
    rw [hname, Script.idOr, if_pos (by rw [hid]; rfl)]
  rw [hs.read_eq, Store.scriptOf?_text hwhole.id, Store.script?, hdrawn, h.unused 0 one_pos]

end Fresh

/-- A script is kept exactly if its texts have a form in the store, and what was kept is
there. -/
structure Preserves (studio : Studio) (settings : Settings) (script : Script) : Prop where
  accepts : (∃ id after, studio.Saves script id after) ↔ script.IsWhole
  stored : ∀ id after, studio.Saves script id after → Stored studio after settings id script
  /-- The id that is made up for a script without one is new, as long as the draws differ from each
  other and from the ids that the calls give. -/
  fresh : script.id = "" → ∀ calls, settings.Allows calls →
    studio.Fresh settings (calls.length + 1) → studio.Avoids (calls.length + 1) calls →
    ∀ id later, (studio.afterCalls calls).Saves script id later →
      (studio.afterCalls calls).read id = .ok none

end Studio

/-- A script that passed its check survives storage: it is read again under its id, whatever
is called, until another script is kept under this id. -/
theorem script_survives {studio : Studio} {settings : Settings} (hs : studio.Serves settings)
    {origin : Origin} {input : Json} {script : Script}
    (hc : Script.check origin input = .accepted script) : studio.Preserves settings script :=
  ⟨hs.exists_saves_iff, fun _ _ h => hs.stored (Script.sound_of_check hc) h,
    fun hid _ ha hfresh havoids _ _ hsave =>
      (hs.within_afterCalls ha).serves.read_fresh (hs.fresh_afterCalls ha hfresh havoids) hid hsave⟩

namespace Sample

/-- A script without an id; its second scene never ends. -/
def endless : Script :=
  { script with
    id := ""
    scenes := [⟨"a", 1, standardMood, .blank, "", none⟩, ⟨"b", 1 / 0, standardMood, .blank, "", none⟩]
    filled := List.cons_ne_nil _ _ }

/-- A version, a load, and a store that is opened again. -/
def laterCalls : List Call := [.append now "j" "x" false, .load "s", .reopen]

theorem studio_fresh : studio.Fresh kept (laterCalls.length + 1) :=
  ⟨by decide, fun _ _ => rfl⟩

end Sample

/-- The one script is read as it was; of the other, the length of the second scene is lost. The id
that is made up for it names nothing before, at once and after the calls. -/
theorem sample_scripts_survive :
    Sample.studio.Serves Sample.kept ∧
    Script.check .text Sample.script.stored = .accepted Sample.script ∧
    Script.check .value (Sample.endless.body Json.float) = .accepted Sample.endless ∧
    (∃ after, Sample.studio.Saves Sample.script "s" after ∧
      (after.afterCalls Sample.laterCalls).read "s" = .ok (some Sample.script)) ∧
    ∃ after, Sample.studio.Saves Sample.endless "000000000001" after ∧
      (after.afterCalls Sample.laterCalls).read "000000000001" =
        .error (.rejected ⟨Script.title, .text,
          [⟨[.key "scenes", .index 1, .key "duration"], .notNumber, .null⟩]⟩) ∧
      (Sample.studio.afterCalls Sample.laterCalls).read "000000000001" = .ok none := by
  have hscript : Script.check .text Sample.script.stored = .accepted Sample.script := rfl
  have hendless : Script.check .value (Sample.endless.body Json.float) =
      .accepted Sample.endless := rfl
  have hsave : ∃ after, Sample.studio.Saves Sample.script "s" after := ⟨_, rfl⟩
  have hlost : ∃ after, Sample.studio.Saves Sample.endless "000000000001" after := ⟨_, rfl⟩
  have hallowed : Sample.kept.Allows Sample.laterCalls := fun _ => by decide
  have hspares (id : String) (studio : Studio) : studio.Spares id Sample.laterCalls :=
    Studio.spares_of_no_save (by simp [Sample.laterCalls]) id studio
  obtain ⟨after, hsave⟩ := hsave
  obtain ⟨other, hlost⟩ := hlost
  refine ⟨Sample.studio_serves, hscript, hendless, ⟨after, hsave, ?found⟩, other, hlost, ?lost,
    ?fresh⟩
  case found =>
    have hstored := (script_survives Sample.studio_serves hscript).stored _ _ hsave
    refine (hstored.endures _ hallowed (hspares _ _)).found fun scene hm => ?_
    obtain rfl := List.mem_singleton.mp hm
    rfl
  case lost =>
    have hstored := (script_survives Sample.studio_serves hendless).stored _ _ hlost
    exact (hstored.endures _ hallowed (hspares _ _)).lost
      ⟨Sample.endless.scenes[1], List.getElem_mem _, rfl⟩
  case fresh =>
    have havoids : Sample.studio.Avoids (Sample.laterCalls.length + 1) Sample.laterCalls :=
      fun script hm => by simp [Sample.laterCalls] at hm
    obtain ⟨later, hagain⟩ : ∃ later, (Sample.studio.afterCalls Sample.laterCalls).Saves
        Sample.endless "000000000001" later := ⟨_, rfl⟩
    exact (script_survives Sample.studio_serves hendless).fresh rfl _ hallowed Sample.studio_fresh
      havoids _ _ hagain

end Storyboard
