import Storyboard.Job.Generation
import Storyboard.Proofs.Checks
import Storyboard.Proofs.Moments
import Storyboard.Proofs.Results

/-!
# Keeping a version

Appending a version adds one row to the table of code, with the code, the flag and the
moment as they were given and the next number of its job, which no row has. It is refused
for a code that is empty or has a lone half, and then nothing is added. The row is read
back as the artifact that was returned, and by its number it comes last. What a desk that
does not keep code returns is the same artifact under the first number.
-/

namespace Storyboard

open Checking
open Results (bind_ok_iff map_ok_iff mapError_ok_iff)

namespace Text

theorem encodeFault?_utf8 {text : String} (h : hasHalf text = false) :
    encodeFault? .utf8 text = none := by
  refine encodeFault?_eq_none fun c hc => ?_
  simp only [hasHalf, List.any_eq_false] at h
  simpa [Encoding.holds] using h c hc

theorem head_unheld {holds : Char → Bool} {chars : List Char} {c : Char} (hc : c ∈ chars)
    (hnot : holds c = false) :
    ∃ first, ((chars.drop (chars.takeWhile holds).length).takeWhile (!holds ·)).head? =
      some first := by
  induction chars with
  | nil => contradiction
  | cons first rest ih =>
    by_cases hf : holds first = true
    · have hrest : c ∈ rest := by
        rcases List.mem_cons.mp hc with rfl | hrest
        · simp [hf] at hnot
        · exact hrest
      rw [List.takeWhile_cons_of_pos hf, List.length_cons, List.drop_succ_cons]
      exact ih hrest
    · exact ⟨first, by simp [hf]⟩

theorem encodeFault?_of_half {text : String} (h : hasHalf text = true) :
    ∃ fault, encodeFault? .utf8 text = some fault := by
  obtain ⟨c, hc, hhalf⟩ := List.any_eq_true.mp h
  have hnot : Encoding.utf8.holds c = false := by simpa [Encoding.holds] using hhalf
  obtain ⟨first, hfirst⟩ := head_unheld hc hnot
  exact ⟨_, Option.map_eq_some_iff.mpr ⟨first, hfirst, rfl⟩⟩

theorem encodeFault?_utf8_eq_none_iff {text : String} :
    encodeFault? .utf8 text = none ↔ hasHalf text = false := by
  refine ⟨fun h => ?_, encodeFault?_utf8⟩
  cases hhalf : hasHalf text with
  | false => rfl
  | true =>
    obtain ⟨fault, hfault⟩ := encodeFault?_of_half hhalf
    rw [hfault] at h
    contradiction

end Text

theorem Json.key_text {text : String} (h : Text.hasHalf text = false) :
    (Json.text text).key = .ok (some text) := by
  simp [key, Text.encodeFault?_utf8 h]

namespace Store

variable {store : Store} {jobId : String}

theorem mem_rowsOf {row : CodeRow} : row ∈ store.rowsOf jobId ↔ row ∈ store.codes ∧ row.jobId = jobId := by
  simp [rowsOf]

/-- A fold of the greater number is at least its start and each of the numbers. -/
theorem le_greatest (rows : List CodeRow) (start : Nat) :
    start ≤ rows.foldl (fun greatest row => max greatest row.version) start ∧
      ∀ row ∈ rows,
        row.version ≤ rows.foldl (fun greatest row => max greatest row.version) start := by
  induction rows generalizing start with
  | nil => simp
  | cons first rows ih =>
    obtain ⟨hstart, hrows⟩ := ih (max start first.version)
    refine ⟨(le_max_left _ _).trans hstart, fun row hrow => ?_⟩
    rcases List.mem_cons.mp hrow with rfl | hrest
    · exact (le_max_right _ _).trans hstart
    · exact hrows row hrest

theorem nextVersion_pos (store : Store) (jobId : String) :
    firstVersion ≤ store.nextVersion jobId := by
  unfold nextVersion firstVersion
  omega

/-- The next number of a job is greater than each number it has. -/
theorem lt_nextVersion {row : CodeRow} (h : row ∈ store.rowsOf jobId) :
    row.version < store.nextVersion jobId :=
  Nat.lt_succ_of_le ((le_greatest (store.rowsOf jobId) 0).2 row h)

/-- The artifact that the next version of a job becomes. -/
def nextArtifact (store : Store) (now : Moment) (jobId code : String) (usedFallback : Bool) :
    Artifact :=
  ⟨jobId, code, usedFallback, store.nextVersion jobId, now⟩

/-- The store with one more version; one whose number is taken changes nothing. -/
def extend (store : Store) (artifact : Artifact) : Store :=
  match store.insert (.ofArtifact artifact) with
  | .ok after => after
  | .error _ => store

theorem extend_scripts (artifact : Artifact) :
    (store.extend artifact).scripts = store.scripts := by
  unfold extend insert
  split
  · next after h =>
    split at h
    · contradiction
    · obtain rfl := Except.ok.inj h
      rfl
  · rfl

section Numbered

variable {artifact : Artifact}

/-- No row has the next number of its job. -/
theorem notMem_keys (h : artifact.version = store.nextVersion artifact.jobId) :
    (CodeRow.ofArtifact artifact).key ∉ store.codes.map CodeRow.key := by
  intro hmem
  obtain ⟨row, hrow, hkey⟩ := List.mem_map.mp hmem
  obtain ⟨hjob, hversion⟩ := Prod.mk.inj hkey
  have hlt := lt_nextVersion (mem_rowsOf.mpr ⟨hrow, hjob⟩)
  rw [hversion] at hlt
  exact absurd h hlt.ne

/-- So a version with the next number of its job is always added. -/
theorem insert_next (h : artifact.version = store.nextVersion artifact.jobId) :
    store.insert (.ofArtifact artifact) = .ok (store.extend artifact) := by
  unfold extend
  cases hinsert : store.insert (.ofArtifact artifact) with
  | ok after => rfl
  | error failure =>
    rw [insert, dif_neg (notMem_keys h)] at hinsert
    contradiction

theorem extend_codes (h : artifact.version = store.nextVersion artifact.jobId) :
    (store.extend artifact).codes = store.codes ++ [.ofArtifact artifact] := by
  have hinsert := insert_next h
  rw [insert, dif_neg (notMem_keys h)] at hinsert
  rw [← Except.ok.inj hinsert]

theorem rowsOf_extend_self (h : artifact.version = store.nextVersion artifact.jobId) :
    (store.extend artifact).rowsOf artifact.jobId =
      store.rowsOf artifact.jobId ++ [.ofArtifact artifact] := by
  rw [rowsOf, extend_codes h, List.filter_append]
  simp [rowsOf, CodeRow.ofArtifact]

theorem rowsOf_extend_other (hother : artifact.jobId ≠ jobId) :
    (store.extend artifact).rowsOf jobId = store.rowsOf jobId := by
  unfold extend insert
  split
  · next after h =>
    split at h
    · contradiction
    · obtain rfl := Except.ok.inj h
      simp [rowsOf, CodeRow.ofArtifact, hother]
  · rfl

theorem nextVersion_extend_self (h : artifact.version = store.nextVersion artifact.jobId) :
    (store.extend artifact).nextVersion artifact.jobId =
      store.nextVersion artifact.jobId + 1 := by
  have hmax (greatest : Nat) : max greatest (greatest + 1) = greatest + 1 := by omega
  rw [nextVersion, rowsOf_extend_self h, List.foldl_append, List.foldl_cons, List.foldl_nil,
    CodeRow.ofArtifact, h, nextVersion, hmax]

theorem nextVersion_extend_other (hother : artifact.jobId ≠ jobId) :
    (store.extend artifact).nextVersion jobId = store.nextVersion jobId := by
  rw [nextVersion, rowsOf_extend_other hother, nextVersion]

end Numbered

/-- The order of the rows of a job. -/
def byNumber (first second : CodeRow) : Bool := first.version ≤ second.version

/-- The numbers of the rows of a job are different, so only one order fits them. -/
theorem eq_of_byNumber {first second : CodeRow} (hf : first ∈ store.rowsOf jobId)
    (hs : second ∈ store.rowsOf jobId) (h : byNumber first second = true)
    (h' : byNumber second first = true) : first = second := by
  obtain ⟨hfirst, hfj⟩ := mem_rowsOf.mp hf
  obtain ⟨hsecond, hsj⟩ := mem_rowsOf.mp hs
  simp only [byNumber, decide_eq_true_eq] at h h'
  refine List.inj_on_of_nodup_map store.keyed hfirst hsecond ?_
  exact Prod.ext (hfj.trans hsj.symm) (le_antisymm h h')

theorem byNumber_trans (first second third : CodeRow) (h : byNumber first second = true)
    (h' : byNumber second third = true) : byNumber first third = true := by
  simp only [byNumber, decide_eq_true_eq] at h h' ⊢
  exact h.trans h'

theorem byNumber_total (first second : CodeRow) :
    (byNumber first second || byNumber second first) = true := by
  simp [byNumber, le_total]

theorem pairwise_sorted (rows : List CodeRow) :
    (rows.mergeSort byNumber).Pairwise fun first second => byNumber first second = true :=
  List.pairwise_mergeSort byNumber_trans byNumber_total rows

theorem history_eq (store : Store) (jobId : String) :
    store.history jobId = ((store.rowsOf jobId).mergeSort byNumber).mapM CodeRow.artifact := rfl

theorem history_congr {after : Store} (h : after.rowsOf jobId = store.rowsOf jobId) :
    after.history jobId = store.history jobId := by
  rw [history_eq, history_eq, h]

/-- By their numbers, a version that is added comes last. -/
theorem sorted_extend {artifact : Artifact}
    (h : artifact.version = store.nextVersion artifact.jobId) :
    ((store.extend artifact).rowsOf artifact.jobId).mergeSort byNumber =
      (store.rowsOf artifact.jobId).mergeSort byNumber ++ [.ofArtifact artifact] := by
  have hrows := rowsOf_extend_self h
  have hperm : (((store.extend artifact).rowsOf artifact.jobId).mergeSort byNumber).Perm
      ((store.rowsOf artifact.jobId).mergeSort byNumber ++ [.ofArtifact artifact]) := by
    refine (List.mergeSort_perm _ _).trans ?_
    rw [hrows]
    exact (List.mergeSort_perm _ _).symm.append_right _
  have hmem : ∀ row ∈ ((store.extend artifact).rowsOf artifact.jobId).mergeSort byNumber,
      row ∈ (store.extend artifact).rowsOf artifact.jobId := fun row =>
    (List.mergeSort_perm _ _).mem_iff.mp
  refine List.Perm.eq_of_pairwise (fun first second hf hs =>
    eq_of_byNumber (hmem first hf) (hmem second (hperm.mem_iff.mpr hs))) (pairwise_sorted _) ?_ hperm
  refine List.pairwise_append.mpr ⟨pairwise_sorted _, List.pairwise_singleton _ _, ?_⟩
  intro row hrow last hlast
  have hlt := lt_nextVersion ((List.mergeSort_perm _ _).mem_iff.mp hrow)
  rw [List.mem_singleton.mp hlast]
  simpa [byNumber, CodeRow.ofArtifact, h] using hlt.le

/-- A version of which a row is read back: it has code without a lone half, and a number from
one on. -/
structure Storable (artifact : Artifact) : Prop where
  filled : artifact.code ≠ ""
  whole : Text.hasHalf artifact.code = false
  counted : firstVersion ≤ artifact.version

/-- Of the fields of a version only the code is looked at: the others are accepted as they
are. -/
theorem checkFields_eq {fields : Fields} {code : String} {usedFallback : Bool} {version : Nat}
    (createdAt : Checked Moment) (hv : firstVersion ≤ version)
    (hjob : Name.find? (.same "job_id") fields.entries = some ("job_id", .text jobId))
    (hcode : Name.find? (.same "code") fields.entries = some ("code", .text code))
    (hflag : Name.find? (.same "used_fallback") fields.entries =
      some ("used_fallback", .bool usedFallback))
    (hversion : Name.find? (.same "version") fields.entries = some ("version", .int version)) :
    Artifact.checkFields createdAt fields =
      (fun text createdAt => ⟨jobId, text, usedFallback, version, createdAt⟩)
        <$> (readFilledText fields.origin (.text code)).under (.key "code") <*> createdAt := by
  have hj : required (.same "job_id") readText fields = .accepted jobId := by
    rw [required_of_find hjob]
    rfl
  have hf : required (.same "used_fallback") readFlag fields = .accepted usedFallback := by
    rw [required_of_find hflag]
    rfl
  have hn : Checking.optional (.same "version") (readWholeFrom firstVersion) firstVersion fields =
      .accepted version := by
    rw [optional_of_find hversion, readWholeFrom_int hv]
    rfl
  rw [Artifact.checkFields, hj, hf, hn, required_of_find hcode]
  cases (readFilledText fields.origin (.text code)).under (.key "code") <;> rfl

/-- The row of a storable version is read back as that version. -/
theorem artifact_ofArtifact {artifact : Artifact} (h : Storable artifact) :
    (CodeRow.ofArtifact artifact).artifact = .ok artifact := by
  have hcode : readFilledText (CodeRow.ofArtifact artifact).fields.origin
      (.text (CodeRow.ofArtifact artifact).code) = .accepted artifact.code :=
    readFilledText_eq_accepted_iff.mpr ⟨rfl, h.whole, h.filled⟩
  have hflag : Name.find? (.same "used_fallback") (CodeRow.ofArtifact artifact).fields.entries =
      some ("used_fallback", .bool artifact.usedFallback) := by
    unfold CodeRow.ofArtifact
    cases artifact.usedFallback <;> rfl
  have hchecked : Artifact.checkFields (.accepted artifact.createdAt)
      (CodeRow.ofArtifact artifact).fields = .accepted artifact := by
    refine (checkFields_eq _ h.counted rfl rfl hflag rfl).trans ?_
    rw [hcode]
    rfl
  have hmoment : (CodeRow.ofArtifact artifact).moment = .ok artifact.createdAt := by
    rw [CodeRow.moment, CodeRow.ofArtifact, Moment.ofText?_text]
  rw [CodeRow.artifact, hmoment]
  simp only [bind, Except.bind, hchecked]
  rfl

/-- A storable version with the next number of its job. -/
structure Fits (store : Store) (artifact : Artifact) : Prop where
  next : artifact.version = store.nextVersion artifact.jobId
  storable : Storable artifact

theorem fits_nextArtifact (store : Store) (now : Moment) (jobId : String) {code : String}
    (hh : Text.hasHalf code = false) (hne : code ≠ "") (usedFallback : Bool) :
    store.Fits (store.nextArtifact now jobId code usedFallback) :=
  ⟨rfl, hne, hh, store.nextVersion_pos jobId⟩

/-- A version that fits is the last one of its history, whatever the history was. -/
theorem history_extend_self {artifact : Artifact} (h : store.Fits artifact) :
    (store.extend artifact).history artifact.jobId =
      (store.history artifact.jobId).map (· ++ [artifact]) := by
  have hread := artifact_ofArtifact h.storable
  rw [history_eq, sorted_extend h.next, List.mapM_append, ← history_eq]
  simp only [List.mapM_cons, List.mapM_nil, hread]
  cases store.history artifact.jobId <;> rfl

theorem history_extend_other {artifact : Artifact} (h : artifact.jobId ≠ jobId) :
    (store.extend artifact).history jobId = store.history jobId :=
  history_congr (rowsOf_extend_other h)

/-- A history without a version has no rows. -/
theorem history_eq_nil_iff : store.history jobId = .ok [] ↔ store.rowsOf jobId = [] := by
  rw [history_eq]
  constructor
  · intro h
    cases hsorted : (store.rowsOf jobId).mergeSort byNumber with
    | nil =>
      have hperm := List.mergeSort_perm (store.rowsOf jobId) byNumber
      rw [hsorted] at hperm
      exact hperm.nil_eq.symm
    | cons row rows =>
      rw [hsorted, List.mapM_cons] at h
      obtain ⟨artifact, _, hrest⟩ := bind_ok_iff.mp h
      obtain ⟨artifacts, _, hnil⟩ := bind_ok_iff.mp hrest
      cases hnil
  · intro h
    rw [h, List.mergeSort_nil]
    rfl

/-- The code of a job, if it may be kept. The store has no say in this. -/
def approve (jobId code : String) : Except Failure String :=
  (Json.text jobId).key.bind fun _ =>
    (((readFilledText .value (.text code)).under (.key "code")).orReport Artifact.title
      .value).mapError .rejected

/-- Appending comes out well whenever the code may be kept: the next number of a job is never
taken. -/
theorem update_eq_approve (store : Store) (now : Moment) (jobId code : String)
    (usedFallback : Bool) :
    store.update now (.text jobId) (.text code) (.bool usedFallback) =
      (approve jobId code).map fun code => (store.nextArtifact now jobId code usedFallback,
        store.extend (store.nextArtifact now jobId code usedFallback)) := by
  rw [update, draft, approve]
  cases hkey : Text.encodeFault? .utf8 jobId with
  | some fault => simp [Json.key, hkey, bind, Except.bind, Except.map]
  | none =>
    simp only [Json.key, hkey, bind, Except.bind, pure, Except.pure, Option.map_some,
      Option.getD_some]
    have hcheck : Artifact.check now .value (.object [("job_id", .text jobId),
        ("code", .text code), ("used_fallback", .bool usedFallback),
        ("version", .int (store.nextVersion jobId))]) =
        ((readFilledText .value (.text code)).under (.key "code")).map fun text =>
          store.nextArtifact now jobId text usedFallback := by
      refine (checkFields_eq _ (store.nextVersion_pos jobId) rfl rfl rfl rfl).trans ?_
      cases (readFilledText .value (.text code)).under (.key "code") <;> rfl
    rw [append, hcheck]
    cases (readFilledText .value (.text code)).under (.key "code") with
    | rejected issues => rfl
    | accepted text =>
      have hinsert : store.insert (.ofArtifact (store.nextArtifact now jobId text usedFallback)) =
          .ok (store.extend (store.nextArtifact now jobId text usedFallback)) := insert_next rfl
      simp only [Checked.map, Checked.orReport, Except.mapError, hinsert, bind, Except.bind]
      rfl

theorem approve_ok_iff {jobId code text : String} :
    approve jobId code = .ok text ↔
      Text.encodeFault? .utf8 jobId = none ∧ Text.hasHalf code = false ∧ code ≠ "" ∧
        text = code := by
  rw [approve, bind_ok_iff]
  simp only [mapError_ok_iff, orReport_eq_ok_iff, Checked.under_eq_accepted_iff,
    readFilledText_eq_accepted_iff, Json.text.injEq]
  constructor
  · rintro ⟨key, hkey, rfl, hh, hne⟩
    rw [Json.key] at hkey
    split at hkey
    · contradiction
    · next hnone => exact ⟨hnone, hh, hne, rfl⟩
  · rintro ⟨hnone, hh, hne, rfl⟩
    exact ⟨some jobId, by rw [Json.key, hnone], rfl, hh, hne⟩

/-- A version is appended exactly when its job has a key and its code has a character and
no lone half; the store then has one more artifact and is otherwise as before. -/
theorem update_ok_iff {store after : Store} {now : Moment} {jobId code : String}
    {usedFallback : Bool} {artifact : Artifact} :
    store.update now (.text jobId) (.text code) (.bool usedFallback) = .ok (artifact, after) ↔
      Text.encodeFault? .utf8 jobId = none ∧ Text.hasHalf code = false ∧ code ≠ "" ∧
        artifact = store.nextArtifact now jobId code usedFallback ∧
        after = store.extend artifact := by
  rw [update_eq_approve, map_ok_iff]
  simp only [approve_ok_iff, Prod.mk.injEq]
  constructor
  · rintro ⟨_, ⟨hnone, hh, hne, rfl⟩, rfl, rfl⟩
    exact ⟨hnone, hh, hne, rfl, rfl⟩
  · rintro ⟨hnone, hh, hne, rfl, rfl⟩
    exact ⟨code, ⟨hnone, hh, hne, rfl⟩, rfl, rfl⟩

theorem update_eq (store : Store) (now : Moment) {jobId code : String}
    (hj : Text.hasHalf jobId = false) (hh : Text.hasHalf code = false) (hne : code ≠ "")
    (usedFallback : Bool) :
    store.update now (.text jobId) (.text code) (.bool usedFallback) =
      .ok (store.nextArtifact now jobId code usedFallback,
        store.extend (store.nextArtifact now jobId code usedFallback)) :=
  update_ok_iff.mpr ⟨Text.encodeFault?_utf8 hj, hh, hne, rfl, rfl⟩

theorem scriptOf?_text {id : String} (h : Text.hasHalf id = false) :
    store.scriptOf? (.text id) = store.script? id := by
  rw [scriptOf?, Json.key_text h]
  rfl

/-- What is under an id decides what is read under it. -/
theorem scriptOf?_congr {after : Store} {id : String}
    (h : after.scripts.lookup id = store.scripts.lookup id) :
    after.scriptOf? (.text id) = store.scriptOf? (.text id) := by
  simp only [scriptOf?, Json.key]
  cases Text.encodeFault? .utf8 id with
  | some fault => rfl
  | none =>
    change after.script? id = store.script? id
    rw [script?, h, script?]

/-- The rows decide every history. -/
theorem historyOf_congr {after : Store} (h : after.codes = store.codes) (jobId : Json) :
    after.historyOf jobId = store.historyOf jobId := by
  simp only [historyOf, history, rowsOf, h]

section Refused

variable {jobId : String}

theorem historyOf_text (h : Text.hasHalf jobId = false) :
    store.historyOf (.text jobId) = store.history jobId := by
  rw [historyOf, Json.key_text h]
  rfl

theorem historyOf_half (h : Text.hasHalf jobId = true) :
    ∃ failure, ∀ store : Store, store.historyOf (.text jobId) = .error failure := by
  obtain ⟨fault, hfault⟩ := Text.encodeFault?_of_half h
  have hkey : Json.key (.text jobId) = .error (.encoding fault) := by
    simp [Json.key, hfault]
  exact ⟨.encoding fault, fun store => by rw [historyOf, hkey]; rfl⟩

/-- An addition with a lone half in its id or its code, or without code, is refused. -/
theorem update_error {code : String} (now : Moment) (usedFallback : Bool)
    (h : Text.hasHalf jobId = true ∨ Text.hasHalf code = true ∨ code = "") :
    ∃ failure, store.update now (.text jobId) (.text code) (.bool usedFallback) =
      .error failure := by
  cases hu : store.update now (.text jobId) (.text code) (.bool usedFallback) with
  | error failure => exact ⟨failure, rfl⟩
  | ok kept =>
    obtain ⟨artifact, after⟩ := kept
    obtain ⟨hj, hc, hne, _⟩ := update_ok_iff.mp hu
    rcases h with hhalf | hhalf | hempty
    · obtain ⟨fault, hfault⟩ := Text.encodeFault?_of_half hhalf
      rw [hfault] at hj
      contradiction
    · rw [hhalf] at hc
      contradiction
    · exact absurd hempty hne

end Refused

end Store

namespace Desk

variable {desk after : Desk} {jobId code : String} {usedFallback : Bool} {artifact : Artifact}
  {log : Log}

theorem keep_of_keeps (h : desk.keeps = true) :
    desk.keep jobId code usedFallback = desk.connection.access.bind fun store =>
      (store.update desk.now (.text jobId) (.text code) (.bool usedFallback)).map fun kept =>
        (kept.1, { desk with connection := desk.connection.holding kept.2 },
          Store.appendedLog kept.1 (.bool usedFallback)) := by
  rw [keep, if_pos h]
  rfl

theorem keep_of_not_keeps (h : desk.keeps = false) :
    desk.keep jobId code usedFallback =
      (Store.empty.update desk.now (.text jobId) (.text code) (.bool usedFallback)).map fun kept =>
        (kept.1, desk, []) := by
  rw [keep, if_neg (by simp [h])]
  rfl

theorem access_ok_iff {connection : Connection} {store : Store} :
    connection.access = .ok store ↔ connection.isOpen = true ∧ store = connection.store := by
  unfold Connection.access
  split
  · next h => simp [h, eq_comm]
  · next h => simp [h]

/-- What a desk returns carries the code and the flag that it was given. -/
theorem keep_ok (h : desk.keep jobId code usedFallback = .ok (artifact, after, log)) :
    artifact.jobId = jobId ∧ artifact.code = code ∧ artifact.usedFallback = usedFallback ∧
      artifact.createdAt = desk.now := by
  cases hk : desk.keeps with
  | true =>
    rw [keep_of_keeps hk] at h
    obtain ⟨store, _, hkept⟩ := bind_ok_iff.mp h
    obtain ⟨⟨found, extended⟩, hu, he⟩ := map_ok_iff.mp hkept
    obtain ⟨_, _, _, rfl, _⟩ := Store.update_ok_iff.mp hu
    obtain ⟨rfl, _⟩ := Prod.mk.inj he
    exact ⟨rfl, rfl, rfl, rfl⟩
  | false =>
    rw [keep_of_not_keeps hk] at h
    obtain ⟨⟨found, extended⟩, hu, he⟩ := map_ok_iff.mp h
    obtain ⟨_, _, _, rfl, _⟩ := Store.update_ok_iff.mp hu
    obtain ⟨rfl, _⟩ := Prod.mk.inj he
    exact ⟨rfl, rfl, rfl, rfl⟩

/-- A desk that keeps code holds one more version afterwards: the artifact that it returns. -/
theorem keep_keeps (hk : desk.keeps = true)
    (h : desk.keep jobId code usedFallback = .ok (artifact, after, log)) :
    desk.connection.store.Fits artifact ∧
      after = { desk with
        connection := desk.connection.holding (desk.connection.store.extend artifact) } := by
  rw [keep_of_keeps hk] at h
  obtain ⟨store, ha, hkept⟩ := bind_ok_iff.mp h
  obtain ⟨⟨found, extended⟩, hu, he⟩ := map_ok_iff.mp hkept
  obtain ⟨_, rfl⟩ := access_ok_iff.mp ha
  obtain ⟨_, hh, hne, hfound, rfl⟩ := Store.update_ok_iff.mp hu
  simp only [Prod.mk.injEq] at he
  obtain ⟨rfl, rfl, _⟩ := he
  rw [hfound]
  exact ⟨Store.fits_nextArtifact _ _ _ hh hne _, rfl⟩

/-- An open desk keeps code that has a character and no lone half, if the id of its job has
no lone half either. -/
theorem exists_keep (hopen : desk.connection.isOpen = true) (hj : Text.hasHalf jobId = false)
    (hh : Text.hasHalf code = false) (hne : code ≠ "") :
    ∃ artifact after log, desk.keep jobId code usedFallback = .ok (artifact, after, log) := by
  cases hk : desk.keeps with
  | true =>
    rw [keep_of_keeps hk, access_ok_iff.mpr ⟨hopen, rfl⟩, Except.bind,
      Store.update_eq _ _ hj hh hne]
    exact ⟨_, _, _, rfl⟩
  | false =>
    rw [keep_of_not_keeps hk, Store.update_eq _ _ hj hh hne]
    exact ⟨_, _, _, rfl⟩

end Desk

end Storyboard
