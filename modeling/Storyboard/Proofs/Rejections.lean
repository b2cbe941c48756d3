import Storyboard.Proofs.Complaints
import Storyboard.Proofs.Holdings

/-!
# Answers to rejected input

A rejected value is answered with a notice before anything else is done. Its category goes by words
in a message, and a message has three parts that the caller has a hand in: how many issues there
are, the positions in lists, and the values that are shown. The words of a category are looked up in
these parts, for what else a message says has none of them.
-/

namespace Storyboard

open Checking

variable {word : List Char}

namespace Checking

/-- The position in a list that a step names. -/
def Step.position? : Step → Option String
  | .key _ => none
  | .index position => some (toString position)

/-- What a report quotes: the count of the issues, the positions, and the shown values. -/
def Report.quotes (report : Report) : List String :=
  toString report.issues.length :: report.issues.flatMap fun issue =>
    issue.path.filterMap Step.position? ++ [shorten issue.value.display]

theorem isMute_kindName (value : Json) :
    isMute (" input_type=".toList ++ (value.kindName.toList ++ [']'])) = true := by
  have hkinds : ∀ kind ∈ ["NoneType", "bool", "int", "float", "str", "list", "dict"],
      isMute (" input_type=".toList ++ (kind.toList ++ [']'])) = true := by decide +kernel
  apply hkinds
  cases value <;> simp [Json.kindName]

theorem says_place {issue : Issue} (hw : word ∈ ruleWords) (hq : issue.IsQuiet) :
    Says word (String.intercalate "." (issue.path.map Step.label)).toList ↔
      ∃ part ∈ issue.path.filterMap Step.position?, Says word part.toList := by
  rw [says_intercalate hw rfl (by decide)]
  constructor
  · rintro ⟨label, hlabel, hsays⟩
    obtain ⟨step, hstep, rfl⟩ := List.mem_map.mp hlabel
    cases step with
    | key name => exact absurd hsays (not_says_of_isMute (hq.names name hstep) hw)
    | index position =>
      exact ⟨_, List.mem_filterMap.mpr ⟨.index position, hstep, rfl⟩, hsays⟩
  · rintro ⟨part, hpart, hsays⟩
    obtain ⟨step, hstep, hposition⟩ := List.mem_filterMap.mp hpart
    cases step with
    | key name => cases hposition
    | index position =>
      obtain rfl := Option.some.inj hposition
      exact ⟨_, List.mem_map_of_mem hstep, hsays⟩

/-- The line on a cause shows a value between an equals sign and a comma. -/
def Issue.causeLine (issue : Issue) : List Char :=
  issue.cause.opening ++ '=' :: ((shorten issue.value.display).toList ++
    ',' :: (" input_type=".toList ++ (issue.value.kindName.toList ++ [']'])))

theorem says_causeLine {issue : Issue} (hw : word ∈ ruleWords) (hq : issue.IsQuiet) :
    Says word issue.causeLine ↔ Says word (shorten issue.value.display).toList := by
  have hopening := not_says_of_isMute hq.cause hw
  have hkind := not_says_of_isMute (isMute_kindName issue.value) hw
  unfold Issue.causeLine
  rw [says_separated hw (by decide), says_separated hw (by decide), or_iff_right hopening,
    or_iff_left hkind]

theorem not_says_code {issue : Issue} (hw : word ∈ ruleWords) (hq : issue.IsQuiet) :
    ¬ Says word issue.cause.code.toList := by
  intro h
  have hopening : issue.cause.opening = ("  ".toList ++ ((issue.cause.message .value).toList ++
      " [type".toList)) ++ '=' :: (issue.cause.code.toList ++ ',' :: " input_value".toList) := by
    simp [Cause.opening]
  apply not_says_of_isMute hq.cause hw
  rw [hopening, says_separated hw (by decide), says_separated hw (by decide)]
  exact .inr (.inl h)

theorem not_says_page {issue : Issue} (hw : word ∈ ruleWords) (hq : issue.IsQuiet) :
    ¬ Says word ("    For further information visit " ++ issue.cause.page).toList := by
  have hpage : ("    For further information visit " ++ issue.cause.page).toList =
      "    For further information visit https://errors.pydantic.dev/2.14/v".toList ++
        '/' :: issue.cause.code.toList := by
    simp [Cause.page, String.intercalate_cons_cons, String.intercalate_singleton]
  have hmute : isMute
      "    For further information visit https://errors.pydantic.dev/2.14/v".toList = true := by
    decide +kernel
  rw [hpage, says_separated hw (by decide), not_or]
  exact ⟨not_says_of_isMute hmute hw, not_says_code hw hq⟩

/-- The lines of an issue have a word exactly if what they quote has it. -/
theorem says_lines {issue : Issue} (hw : word ∈ ruleWords) (hq : issue.IsQuiet) :
    (∃ line ∈ issue.lines .value, Says word line.toList) ↔
      ∃ part ∈ issue.path.filterMap Step.position? ++ [shorten issue.value.display],
        Says word part.toList := by
  have hlines : issue.lines .value =
      (if issue.path.isEmpty then [] else [String.intercalate "." (issue.path.map Step.label)]) ++
        ["  " ++ issue.cause.message .value ++ " [type=" ++ issue.cause.code ++
          ", input_value=" ++ shorten issue.value.display ++ ", " ++
            ("input_type=" ++ issue.value.kindName ++ "]"),
          "    For further information visit " ++ issue.cause.page] := rfl
  have hcause : ("  " ++ issue.cause.message .value ++ " [type=" ++ issue.cause.code ++
      ", input_value=" ++ shorten issue.value.display ++ ", " ++
        ("input_type=" ++ issue.value.kindName ++ "]")).toList = issue.causeLine := by
    simp [Issue.causeLine, Cause.opening]
  have hplace : (∃ line ∈ if issue.path.isEmpty then []
        else [String.intercalate "." (issue.path.map Step.label)], Says word line.toList) ↔
      ∃ part ∈ issue.path.filterMap Step.position?, Says word part.toList := by
    cases hpath : issue.path with
    | nil => simp
    | cons step path =>
      rw [← hpath, ← says_place hw hq]
      simp [hpath]
  rw [hlines]
  simp only [List.mem_append, List.mem_cons, List.not_mem_nil, or_false, or_and_right, exists_or,
    exists_eq_left, hplace, hcause, says_causeLine hw hq, not_says_page hw hq]

/-- The first line of a report behind the count. -/
def headings (title : String) : List (List Char) :=
  [" validation error for ".toList ++ title.toList,
    " validation errors for ".toList ++ title.toList]

/-- A report on a value that has no word of a category but in what it quotes. -/
structure Report.IsQuiet (report : Report) : Prop where
  origin : report.origin = .value
  title : ∀ heading ∈ headings report.title, isMute heading = true
  issues : ∀ issue ∈ report.issues, issue.IsQuiet

variable {report : Report}

theorem says_heading (hw : word ∈ ruleWords) (hq : report.IsQuiet) {noun : String}
    (hnoun : " ".toList ++ (noun.toList ++ (" for ".toList ++ report.title.toList)) ∈
      headings report.title) (count : Nat) :
    Says word (toString count ++ " " ++ noun ++ " for " ++ report.title).toList ↔
      Says word (toString count).toList := by
  have hrest := not_says_of_isMute (hq.title _ hnoun) hw
  have hlist : (toString count ++ " " ++ noun ++ " for " ++ report.title).toList =
      (toString count).toList ++
        ' ' :: (noun.toList ++ (" for ".toList ++ report.title.toList)) := by
    simp
  rw [hlist, says_counted hw]
  exact or_iff_left hrest

/-- A message has a word exactly if something that its report quotes has it. -/
theorem says_message (hw : word ∈ ruleWords) (hq : report.IsQuiet) :
    Says word report.message.toList ↔ ∃ part ∈ report.quotes, Says word part.toList := by
  let noun := if report.issues.length = 1 then "validation error" else "validation errors"
  have hmessage : report.message = String.intercalate "\n"
      ((toString report.issues.length ++ " " ++ noun ++ " for " ++ report.title) ::
        report.issues.flatMap (Issue.lines report.origin)) := rfl
  have hnoun : " ".toList ++ (noun.toList ++ (" for ".toList ++ report.title.toList)) ∈
      headings report.title := by
    by_cases hone : report.issues.length = 1
    · simp [noun, hone, headings]
    · simp [noun, hone, headings]
  have hlines : (∃ line ∈ report.issues.flatMap (Issue.lines report.origin),
      Says word line.toList) ↔ ∃ part ∈ report.issues.flatMap fun issue =>
        issue.path.filterMap Step.position? ++ [shorten issue.value.display],
        Says word part.toList := by
    simp only [List.mem_flatMap]
    constructor
    · rintro ⟨line, ⟨issue, hissue, hline⟩, hsays⟩
      rw [hq.origin] at hline
      obtain ⟨part, hpart, hsays⟩ :=
        (says_lines hw (hq.issues issue hissue)).mp ⟨line, hline, hsays⟩
      exact ⟨part, ⟨issue, hissue, hpart⟩, hsays⟩
    · rintro ⟨part, ⟨issue, hissue, hpart⟩, hsays⟩
      obtain ⟨line, hline, hsays⟩ :=
        (says_lines hw (hq.issues issue hissue)).mpr ⟨part, hpart, hsays⟩
      rw [← hq.origin] at hline
      exact ⟨line, ⟨issue, hissue, hline⟩, hsays⟩
  rw [hmessage, says_intercalate hw rfl (by decide), Report.quotes]
  simp only [List.mem_cons, or_and_right, exists_or, exists_eq_left, says_heading hw hq hnoun,
    hlines]

/-- One of the words occurs in what the report quotes, whose case does not matter. -/
def Report.quotesOneOf (report : Report) (words : List String) : Bool :=
  report.quotes.any fun part => mentions (Text.lower part) words

theorem mentions_message (hq : report.IsQuiet) {rule : List String × Category × String}
    (hrule : rule ∈ messageRules) :
    mentions (Text.lower report.message) rule.1 = report.quotesOneOf rule.1 := by
  have hword : ∀ word ∈ rule.1, word.toList ∈ ruleWords := by
    intro word hmem
    rw [← flatMap_messageRules]
    exact List.mem_flatMap.mpr ⟨rule, hrule, List.mem_map_of_mem hmem⟩
  rw [Bool.eq_iff_iff]
  simp only [mentions, Report.quotesOneOf, List.any_eq_true, contains_lower_iff]
  constructor
  · rintro ⟨word, hmem, hsays⟩
    obtain ⟨part, hpart, hsays⟩ := (says_message (hword word hmem) hq).mp hsays
    exact ⟨part, hpart, word, hmem, hsays⟩
  · rintro ⟨part, hpart, word, hmem, hsays⟩
    exact ⟨word, hmem, (says_message (hword word hmem) hq).mpr ⟨part, hpart, hsays⟩⟩

end Checking

/-- What the quotes of a report decide about the notice of a rejected value. -/
structure QuotesDecide (report : Report) : Prop where
  category : (Failure.rejected report).category =
    ((messageRules.find? fun rule => report.quotesOneOf rule.1).map Prod.snd).getD
      (.unknown, report.message)
  retryable : (Failure.rejected report).notice.retryable = true ↔
    report.quotesOneOf ["401", "403"] = false ∧
      (report.quotesOneOf ["429", "quota", "resource_exhausted"] = true ∨
        report.quotesOneOf ["400"] = false ∧
        report.quotesOneOf ["invalid codegen provider"] = false ∧
        report.quotesOneOf ["timeout", "timed out"] = true)
  retryAfter : (Failure.rejected report).notice.retryAfter =
    if report.quotesOneOf ["401", "403"] = false ∧
      report.quotesOneOf ["429", "quota", "resource_exhausted"] = true then some quotaPause
    else none

/-- The category of the first row whose words are found, row by row. -/
def Category.ofRows (denied quota bad provider slow store : Bool) : Category :=
  if denied then .permissionDenied
  else if quota then .quotaExceeded
  else if bad then .invalidArgument
  else if provider then .invalidSettings
  else if slow then .networkError
  else if store then .storeError
  else .unknown

theorem Category.isRetryable_ofRows : ∀ denied quota bad provider slow store : Bool,
    (ofRows denied quota bad provider slow store).isRetryable = true ↔
      denied = false ∧ (quota = true ∨ bad = false ∧ provider = false ∧ slow = true) := by decide

theorem Category.retryAfter?_ofRows : ∀ denied quota bad provider slow store : Bool,
    (ofRows denied quota bad provider slow store).retryAfter? =
      if denied = false ∧ quota = true then some quotaPause else none := by decide

theorem category_find? (found : List String → Bool) (message : String) :
    (((messageRules.find? fun rule => found rule.1).map Prod.snd).getD (.unknown, message)).1 =
      .ofRows (found ["401", "403"]) (found ["429", "quota", "resource_exhausted"])
        (found ["400"]) (found ["invalid codegen provider"]) (found ["timeout", "timed out"])
        (found ["sqlite", "database"]) := by
  simp only [messageRules, List.find?_cons, List.find?_nil]
  -- The rows are gone through until one is found; no case goes on behind it.
  cases found ["401", "403"] with
  | true => rfl
  | false =>
  cases found ["429", "quota", "resource_exhausted"] with
  | true => rfl
  | false =>
  cases found ["400"] with
  | true => rfl
  | false =>
  cases found ["invalid codegen provider"] with
  | true => rfl
  | false =>
  cases found ["timeout", "timed out"] with
  | true => rfl
  | false =>
  cases found ["sqlite", "database"] with
  | true => rfl
  | false => rfl

theorem notice_retryable (failure : Failure) :
    failure.notice.retryable = failure.category.1.isRetryable := rfl

theorem notice_retryAfter (failure : Failure) :
    failure.notice.retryAfter = failure.category.1.retryAfter? := rfl

theorem quotesDecide {report : Report} (hq : report.IsQuiet) : QuotesDecide report := by
  have hcategory : (Failure.rejected report).category =
      ((messageRules.find? fun rule => report.quotesOneOf rule.1).map Prod.snd).getD
        (.unknown, report.message) := by
    have hfind : (messageRules.find? fun rule => mentions (Text.lower report.message) rule.1) =
        messageRules.find? fun rule => report.quotesOneOf rule.1 := by
      rw [← List.head?_filter, ← List.head?_filter,
        List.filter_congr fun rule hrule => mentions_message hq hrule]
    change categoryOfMessage report.message = _
    rw [categoryOfMessage, hfind]
    cases messageRules.find? fun rule => report.quotesOneOf rule.1 <;> rfl
  refine ⟨hcategory, ?_, ?_⟩
  · rw [notice_retryable, hcategory, category_find?]
    exact Category.isRetryable_ofRows _ _ _ _ _ _
  · rw [notice_retryAfter, hcategory, category_find?]
    exact Category.retryAfter?_ofRows _ _ _ _ _ _

namespace Tool

variable {studio : Studio} {arguments : GenerateArguments} {report : Report}

theorem on_coerce {shape : Json.Shape} {argument value : Json}
    (h : Json.coerce studio.nesting shape argument = .ok value) :
    Action.on (coerce shape argument) studio = (.ok value, studio) := by
  unfold coerce
  rw [Action.on_bind_ok Action.on_get, h]
  rfl

theorem on_accept {title : String} {check : Checked α} {value : α} (h : check = .accepted value) :
    Action.on (accept title check) studio = (.ok value, studio) := by
  rw [h]
  rfl

theorem on_accept_rejected {title : String} {check : Checked α} {issues : List Issue}
    (h : check = .rejected issues) :
    Action.on (accept title check) studio =
      (.error (.rejected ⟨title, .value, issues⟩), studio) := by
  rw [h]
  rfl

/-- The fields of a revision that arguments name. -/
def GenerateArguments.revisionFields (arguments : GenerateArguments) : Json := .object
  [("previous_code", arguments.previousCode), ("feedback", arguments.feedback)]

/-- The fields of a request beside its narration and its revision. -/
def GenerateArguments.requestFields (arguments : GenerateArguments) (images : Json) : Fields :=
  ⟨.value, [
    ("job_id", arguments.jobId),
    ("script_id", arguments.scriptId),
    ("image_urls", if images.isVacant then .list [] else images),
    ("aspect_ratio", arguments.aspectRatio),
    ("target_duration", arguments.targetDuration)]⟩

/-- Arguments whose lists and objects can be read. -/
structure GenerateArguments.Reads (room : Nat) (arguments : GenerateArguments)
    (images narration : Json) : Prop where
  images : Json.coerce room .list arguments.imageUrls = .ok images
  narration : Json.coerce room .object arguments.narration = .ok narration

def GenerateArguments.revises (arguments : GenerateArguments) : Bool :=
  !arguments.previousCode.isVacant && !arguments.feedback.isVacant

/-- The revision of a request: none is asked for, or it is accepted. -/
inductive GenerateArguments.GivesRevision (arguments : GenerateArguments) :
    Option Revision → Prop
  | none (h : arguments.revises = false) : GivesRevision arguments none
  | some {revision : Revision} (h : arguments.revises = true)
      (hr : Revision.check .value arguments.revisionFields = .accepted revision) :
      GivesRevision arguments (some revision)

/-- The spoken track of a request: none is given, or it is accepted. -/
inductive GivesTrack (narration : Json) : Option Narration → Prop
  | none (h : narration.isVacant = true) : GivesTrack narration none
  | some {track : Narration} (h : narration.isVacant = false)
      (ht : Narration.check .value narration = .accepted track) : GivesTrack narration (some track)

/-- The first of the three checks that the arguments do not pass, with its report. -/
inductive Rejected (room : Nat) (arguments : GenerateArguments) : Report → Prop
  | revision {images narration : Json} {issues : List Issue}
      (hread : arguments.Reads room images narration) (h : arguments.revises = true)
      (hi : Revision.check .value arguments.revisionFields = .rejected issues) :
      Rejected room arguments ⟨Revision.title, .value, issues⟩
  | narration {images narration : Json} {revision : Option Revision}
      {issues : List Issue} (hread : arguments.Reads room images narration)
      (hr : arguments.GivesRevision revision) (h : narration.isVacant = false)
      (hi : Narration.check .value narration = .rejected issues) :
      Rejected room arguments ⟨Narration.title, .value, issues⟩
  | request {images narration : Json} {revision : Option Revision}
      {track : Option Narration} {issues : List Issue} (hread : arguments.Reads room images narration)
      (hr : arguments.GivesRevision revision) (ht : GivesTrack narration track)
      (hi : Request.checkFields (.accepted track) (.accepted revision)
        (arguments.requestFields images) = .rejected issues) :
      Rejected room arguments ⟨Request.title, .value, issues⟩

theorem revision_eq (arguments : GenerateArguments) : arguments.revision =
    if arguments.revises then do
      return some (← accept Revision.title
        (Revision.check .value arguments.revisionFields))
    else return none := by
  unfold GenerateArguments.revision GenerateArguments.revises
  cases arguments.previousCode.isVacant <;> cases arguments.feedback.isVacant <;> rfl

theorem on_revision {revision : Option Revision} (h : arguments.GivesRevision revision) :
    Action.on arguments.revision studio = (.ok revision, studio) := by
  rw [revision_eq]
  cases h with
  | none h =>
    rw [h]
    rfl
  | some h hr =>
    rw [h, if_pos rfl, Action.on_bind_ok (on_accept hr)]
    rfl

theorem on_request_of_rejected (h : Rejected studio.nesting arguments report) :
    Action.on arguments.request studio = (.error (.rejected report), studio) := by
  unfold GenerateArguments.request
  cases h with
  | revision hread h hi =>
    rw [Action.on_bind_ok (on_coerce hread.images), Action.on_bind_ok (on_coerce hread.narration)]
    refine Action.on_bind_error ?_
    rw [revision_eq, if_pos h]
    exact Action.on_bind_error (on_accept_rejected hi)
  | narration hread hr h hi =>
    rw [Action.on_bind_ok (on_coerce hread.images), Action.on_bind_ok (on_coerce hread.narration),
      Action.on_bind_ok (on_revision hr), h]
    refine Action.on_bind_error ?_
    rw [map_eq_pure_bind]
    exact Action.on_bind_error (on_accept_rejected hi)
  | @request _ narration _ _ _ hread hr ht hi =>
    rw [Action.on_bind_ok (on_coerce hread.images), Action.on_bind_ok (on_coerce hread.narration),
      Action.on_bind_ok (on_revision hr)]
    cases ht with
    | none h =>
      rw [h]
      exact on_accept_rejected hi
    | @some track h ht =>
      have htrack : Action.on (some <$> accept Narration.title
          (Narration.check .value narration)) studio = (.ok (some track), studio) := by
        rw [map_eq_pure_bind, Action.on_bind_ok (on_accept ht)]
        rfl
      rw [h]
      exact (Action.on_bind_ok htrack).trans (on_accept_rejected hi)

theorem on_saveScript_of_rejected {script value : Json} {issues : List Issue}
    (hc : Json.coerce studio.nesting .object script = .ok value)
    (hi : Script.check .value value = .rejected issues) :
    Action.on (saveScript script) studio =
      (.ok (Failure.rejected ⟨Script.title, .value, issues⟩).notice.body, studio) := by
  apply on_answering_error
  rw [Action.on_bind_ok (on_coerce hc), Action.on_bind_error (on_accept_rejected hi)]

theorem isMute_headings : ∀ title ∈ [Script.title, Revision.title, Narration.title,
    Request.title], ∀ heading ∈ headings title, isMute heading = true := by decide +kernel

theorem quiet_rejected {room : Nat} (h : Rejected room arguments report) : report.IsQuiet := by
  cases h with
  | revision _ _ hi =>
    exact ⟨rfl, isMute_headings _ (by simp), Revision.quiet_check _ _ _ hi⟩
  | narration _ _ _ hi =>
    exact ⟨rfl, isMute_headings _ (by simp), Narration.quiet_check _ _ _ hi⟩
  | request _ _ _ hi =>
    exact ⟨rfl, isMute_headings _ (by simp), Request.quiet_checkFields _ _ _ _ hi⟩

end Tool

/-- Input that a check rejects is answered with a notice, with no request made and the studio as it
was. The names of fields and the wording of causes have no part in the notice's verdict, but what
the report quotes does: the count of issues, positions in lists and shown values, in which a word
may stand that makes the notice say that trying again may help. -/
theorem rejected_input_is_answered (studio : Studio) :
    (∀ script value issues, Json.coerce studio.nesting .object script = .ok value →
      Script.check .value value = .rejected issues →
      Action.on (Tool.saveScript script) studio =
        (.ok (Failure.rejected ⟨Script.title, .value, issues⟩).notice.body, studio) ∧
      QuotesDecide ⟨Script.title, .value, issues⟩) ∧
    ∀ arguments report, Tool.Rejected studio.nesting arguments report →
      Action.on (Tool.generate arguments) studio =
        (.ok (Failure.rejected report).notice.body, studio) ∧
      QuotesDecide report := by
  constructor
  · intro script value issues hc hi
    have hquiet : (Report.mk Script.title .value issues).IsQuiet :=
      ⟨rfl, Tool.isMute_headings _ (by simp), Script.quiet_check _ _ _ hi⟩
    exact ⟨Tool.on_saveScript_of_rejected hc hi, quotesDecide hquiet⟩
  · intro arguments report h
    exact ⟨Tool.on_generate_of_request_error (Tool.on_request_of_rejected h),
      quotesDecide (Tool.quiet_rejected h)⟩

namespace Sample

/-- A script whose one scene has a word for its length. -/
def wordyScript : Json :=
  .object [("scenes", .list [.object [("id", .text "a"), ("duration", .text "timeout")]])]

def wordyReport : Report :=
  ⟨Script.title, .value,
    [⟨[.key "scenes", .index 0, .key "duration"], .badNumeral, .text "timeout"⟩]⟩

/-- Arguments with a word for the length of the video. -/
def wordyArguments : Tool.GenerateArguments := .ofEntries
  [("job_id", .text "j"), ("script_id", .text "s"), ("target_duration", .text "quota")]

def wordyRequestReport : Report :=
  ⟨Request.title, .value, [⟨[.key "target_duration"], .badNumeral, .text "quota"⟩]⟩

def idle : Studio := newStudio 2

end Sample

/-- The notices on a script and on a request that are rejected say that trying again may help. -/
theorem words_in_values_are_retryable :
    Action.on (Tool.saveScript Sample.wordyScript) Sample.idle =
      (.ok (Failure.rejected Sample.wordyReport).notice.body, Sample.idle) ∧
    (Failure.rejected Sample.wordyReport).notice.retryable = true ∧
    Action.on (Tool.generate Sample.wordyArguments) Sample.idle =
      (.ok (Failure.rejected Sample.wordyRequestReport).notice.body, Sample.idle) ∧
    (Failure.rejected Sample.wordyRequestReport).notice.retryAfter = some 60 := by
  obtain ⟨hscript, hrequest⟩ := rejected_input_is_answered Sample.idle
  have hcheck : Script.check .value Sample.wordyScript = .rejected Sample.wordyReport.issues := rfl
  have hrejected : Tool.Rejected 2 Sample.wordyArguments Sample.wordyRequestReport :=
    .request ⟨rfl, rfl⟩ (.none rfl) (.none rfl) rfl
  obtain ⟨hsave, hdecide⟩ := hscript Sample.wordyScript _ _ rfl hcheck
  obtain ⟨hgenerate, hdecide'⟩ := hrequest _ _ hrejected
  refine ⟨hsave, ?_, hgenerate, ?_⟩
  · exact hdecide.retryable.mpr (by decide +kernel)
  · rw [hdecide'.retryAfter]
    decide +kernel

end Storyboard
