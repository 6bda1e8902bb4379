import CommitLint.Engine.Slicing
import CommitLint.Proofs.Engine.Independence
import CommitLint.Proofs.Report.Label

/-!
# What breaks off a run

The rules find their places by a search, so there is always a place to cut at: each of the functions
whose names end in `ByBytes?` or `ByIndex?` has a value for every text, namely what the function
says that looks at the text alone (`Rule.checkByBytes?_eq`). The line about a commit in a log is
another matter. It names the commit by the first seven bytes of its hash, and where they end within
a character the run breaks off, whatever the rules say (`Engine.validateAll?_exact`). So a run over
some commits comes to an end if there is no log, or if all of them can be named; and else it has no
results at all (`Engine.not_forall_validateAll?`).
-/

namespace CommitLint

open Text

/-! ### A subject -/

theorem Subject.spacesByBytes?_eq (line : List Char) :
    spacesByBytes? line = some (spacesAfterColon? line) := by
  rw [spacesByBytes?, spacesAfterColon?, offset?_eq_map_cutAtText, cutAtText_singleton]
  cases hcut : cutAt ':' line with
  | none => rfl
  | some cut =>
    rw [← cutAtText_singleton] at hcut
    -- A colon is one byte long, so the cut is right behind it.
    have hrest : fromByte? (byteLength cut.1 + 1) line = some cut.2 :=
      (cutAtText_eq_some_iff.mp hcut).fromByte?_add_eq
    rw [Option.map_some, Option.map_some]
    dsimp only
    rw [hrest]
    rfl

namespace Check

theorem spacingByBytes?_eq (line : List Char) :
    spacingByBytes? line = some (spacingFindings line) := by
  rw [spacingByBytes?, spacingFindings, Subject.spacesByBytes?_eq, Subject.spacesAfterColon?]
  cases cutAt ':' line with
  | none => rfl
  | some cut =>
    simp only [Option.map_some, Option.bind_eq_bind, Option.bind_some, Option.getD_some]
    split_ifs <;> simp_all

theorem conventionalByBytes?_eq (settings : Settings.Conventional) (c : Commit) :
    conventionalByBytes? settings c = some (conventional settings c) := by
  rw [conventionalByBytes?, conventional, spacingByBytes?_eq]
  split_ifs <;> rfl

/-! ### References to issues -/

theorem subjectKeysByIndex?_eq (subject : List Char) :
    subjectKeysByIndex? subject = some (subjectKeys subject) := by
  rw [subjectKeysByIndex?, subjectKeys.eq_def]
  cases IssueKey.find subject with
  | nil => rfl
  | cons first more =>
    rw [List.isEmpty_cons, if_neg Bool.false_ne_true]
    dsimp only
    split_ifs <;> rfl

theorem bodyKeysByBytes?_eq (body : List Char) : bodyKeysByBytes? body = some (bodyKeys body) := by
  rw [bodyKeysByBytes?, bodyKeys, List.find?_eq_bind_findIdx?_getElem?]
  cases hindex : ((lines body).map trim).findIdx? (startsWith refsStart ·) with
  | none => rfl
  | some index =>
    -- The line at this number is there, and it starts with the mark that is cut off.
    obtain ⟨hlt, hstart, -⟩ := List.findIdx?_eq_some_iff_getElem.mp hindex
    simp only [Option.bind_eq_bind, Option.bind_some, List.getElem?_eq_getElem hlt,
      fromByte?_of_startsWith hstart]

theorem issueByBytes?_eq (settings : Settings.Jira) (c : Commit) :
    issueByBytes? settings c = some (issue settings c) := by
  rw [issueByBytes?, issue, bodyKeysByBytes?_eq, subjectKeysByIndex?_eq]
  split_ifs <;> rfl

end Check

/-! ### Envelopes -/

namespace Armor

theorem firstBlockByBytes?_eq (text : List Char) :
    firstBlockByBytes? text = some (firstBlock text) := by
  rw [firstBlockByBytes?, firstBlock, offset?_eq_map_cutAtText]
  cases hcut : cutAtText beginStart text with
  | none => rfl
  | some cut =>
    have hrest := (cutAtText_eq_some_iff.mp hcut).fromByte?_eq
    simp only [Option.map_some, hrest, Option.bind_eq_bind, Option.bind_some]
    cases typeOfLine? (trim ((lines (beginStart ++ cut.2)).headD [])) with
    | none => rfl
    | some blockType =>
      simp only [offset?_eq_map_cutAtText]
      cases hend : cutAtText (endLine blockType) (beginStart ++ cut.2) with
      | none =>
        dsimp only [Option.map_none]
        split <;> rfl
      | some last =>
        have hblock := (cutAtText_eq_some_iff.mp hend).upToByte?_add_eq
        simp only [Option.map_some, hblock, Option.bind_some]

theorem decodeByBytes?_eq (text : List Char) : decodeByBytes? text = some (decode text) := by
  rw [decodeByBytes?, firstBlockByBytes?_eq, decode]
  rcases firstBlock text with fault | ⟨blockType, block⟩ <;> rfl

end Armor

namespace Envelope

theorem checkArmoredSshByBytes?_eq (text : List Char) :
    checkArmoredSshByBytes? text = some (checkArmoredSsh text) := by
  rw [checkArmoredSshByBytes?, checkArmoredSsh, offset?_eq_map_cutAtText]
  cases hcut : cutAtText sshBegin text with
  | none => rfl
  | some cut =>
    have hafter := (cutAtText_eq_some_iff.mp hcut).fromByte?_add_eq
    simp only [Option.map_some, hafter, Option.bind_eq_bind, Option.bind_some,
      offset?_eq_map_cutAtText]
    cases hend : cutAtText sshEnd cut.2 with
    | none => rfl
    | some last =>
      have hbetween := (cutAtText_eq_some_iff.mp hend).upToByte?_eq
      simp only [Option.map_some, hbetween, Option.bind_some]

theorem judgeByBytes?_eq (signature : List Char) :
    judgeByBytes? signature = some (judge signature) := by
  have hchecked : ∀ kind, checkAsByBytes? signature kind = some (checkAs signature kind) := by
    intro kind
    cases kind with
    | gpg => rw [checkAsByBytes?, Armor.decodeByBytes?_eq, checkAs, checkPgp, Option.map_some]
    | ssh =>
      rw [checkAsByBytes?, checkArmoredSshByBytes?_eq, checkAs]
      split_ifs <;> rfl
    | unknown => rfl
  rw [judgeByBytes?, judge, hchecked]
  split_ifs <;> rfl

end Envelope

theorem Check.checkEnvelopeByBytes?_eq (explain : String → String) (rule : Rule) (c : Commit) :
    checkEnvelopeByBytes? explain rule c = some (checkEnvelope explain rule c) := by
  rw [checkEnvelopeByBytes?, checkEnvelope, Envelope.judgeByBytes?_eq, Option.map_some]
  split_ifs <;> rfl

/-! ### Rules -/

/-- No rule breaks off, whatever the commit is and whatever collaborators reply. -/
theorem Rule.checkByBytes?_eq (rule : Rule) (settings : Settings) (team : Collaborators)
    (c : Commit) (s : Session) :
    rule.checkByBytes? settings team c s = some (rule.check settings team c s) := by
  cases rule
  case conventionalCommit =>
    rw [checkByBytes?, Check.conventionalByBytes?_eq, Option.map_some, check]
  case jiraReference => rw [checkByBytes?, Check.issueByBytes?_eq, Option.map_some, check]
  case signature =>
    rw [checkByBytes?, Check.checkEnvelopeByBytes?_eq, Option.map_some, check, Check.signature]
  case signedIdentity =>
    rw [checkByBytes?, Check.checkEnvelopeByBytes?_eq, Option.map_some, check, Check.signedIdentity]
  all_goals rfl

/-! ### The log -/

namespace Result

/-- A line of a log tells the name of a commit and the number of findings. -/
def IsLoggedAs (r : Result) (line : String) : Prop :=
  ∃ name, Report.IsLabel r.commit.hash name ∧
    line = s!"Validated commit {name}: {r.findings.length} errors"

theorem logLine?_eq (r : Result) :
    r.logLine? = (Report.label? r.commit).map fun name =>
      s!"Validated commit {name}: {r.findings.length} errors" := by
  rw [logLine?, Report.label?]
  split_ifs with hempty
  · rfl
  · cases r.commit.shortHash? <;> rfl

theorem logLine?_eq_some_iff {r : Result} {line : String} :
    r.logLine? = some line ↔ r.IsLoggedAs line := by
  rw [logLine?_eq, Option.map_eq_some_iff]
  exact exists_congr fun name => and_congr Report.label?_eq_some_iff eq_comm

end Result

/-! ### Runs -/

namespace Engine

variable {e : Engine} {logs : Bool} {c : Commit} {commits : List Commit} {s t : Session}

theorem runRules?_eq (e : Engine) (c : Commit) (rules : List Rule) (s : Session) :
    e.runRules? c rules s = some (e.runRules c rules s) := by
  induction rules generalizing s with
  | nil => rfl
  | cons rule rules ih =>
    rw [runRules?, Rule.checkByBytes?_eq, Option.bind_eq_bind, Option.bind_some]
    dsimp only
    rw [ih]
    rfl

theorem validate?_eq (e : Engine) (logs : Bool) (c : Commit) (s : Session) :
    e.validate? logs c s =
      ((e.validate c s).1.log? logs).map fun line =>
        ((e.validate c s).1, line, (e.validate c s).2) := by
  rw [validate?, runRules?_eq, Option.bind_eq_bind, Option.bind_some, validate_eq]
  dsimp only
  cases (Result.ofOutcomes c (e.runRules c e.rules s).1).log? logs <;> rfl

/-- Without a log nothing breaks off a run. -/
theorem validateAll?_of_not_logs (e : Engine) (commits : List Commit) (s : Session) :
    e.validateAll? false commits s =
      some ((e.validateAll commits s).1, [], (e.validateAll commits s).2) := by
  induction commits generalizing s with
  | nil => rfl
  | cons c commits ih =>
    have hlog : (e.validate c s).1.log? false = some [] := rfl
    rw [validateAll?, validate?_eq, hlog, Option.map_some, Option.bind_eq_bind, Option.bind_some]
    dsimp only
    rw [ih]
    rfl

/-- With a log, a run goes on as long as the commits can be named. -/
theorem validateAll?_of_logs (e : Engine) (commits : List Commit) (s : Session) :
    e.validateAll? true commits s =
      ((e.validateAll commits s).1.mapM Result.logLine?).map fun lines =>
        ((e.validateAll commits s).1, lines, (e.validateAll commits s).2) := by
  induction commits generalizing s with
  | nil => rfl
  | cons c commits ih =>
    have hlog : (e.validate c s).1.log? true = (e.validate c s).1.logLine?.map ([·]) := rfl
    rw [validateAll?, validate?_eq, hlog, Option.bind_eq_bind, validateAll]
    dsimp only
    rw [List.mapM_cons]
    -- A commit without a name ends the run there, and the list of all lines with it.
    cases (e.validate c s).1.logLine? with
    | none => rfl
    | some line =>
      simp only [Option.map_some, Option.bind_some, Option.bind_eq_bind, ih]
      cases ((e.validateAll commits (e.validate c s).2).1.mapM Result.logLine?) <;> rfl

/-- Where all commits can be named, a run comes to what it comes to without a log. -/
theorem exists_validateAll?_eq (hnames : ∀ c ∈ commits, (Report.label? c).isSome) (e : Engine)
    (logs : Bool) (s : Session) :
    ∃ lines, e.validateAll? logs commits s =
      some ((e.validateAll commits s).1, lines, (e.validateAll commits s).2) := by
  cases logs with
  | false => exact ⟨[], e.validateAll?_of_not_logs commits s⟩
  | true =>
    have hlines : ((e.validateAll commits s).1.mapM Result.logLine?).isSome := by
      refine Entries.isSome_mapM_iff.mpr fun r hr => ?_
      have hc : r.commit ∈ commits := e.commit_validateAll commits s ▸ List.mem_map_of_mem hr
      rw [Result.logLine?_eq, Option.isSome_map]
      exact hnames r.commit hc
    obtain ⟨lines, hlines⟩ := Option.isSome_iff_exists.mp hlines
    exact ⟨lines, by rw [validateAll?_of_logs, hlines, Option.map_some]⟩

theorem isSome_validateAll?_iff :
    (e.validateAll? logs commits s).isSome ↔
      logs = false ∨ ∀ c ∈ commits, (Report.label? c).isSome := by
  constructor
  · intro h
    cases logs with
    | false => exact .inl rfl
    | true =>
      rw [validateAll?_of_logs, Option.isSome_map, Entries.isSome_mapM_iff] at h
      refine .inr fun c hc => ?_
      rw [← e.commit_validateAll commits s] at hc
      obtain ⟨r, hr, rfl⟩ := List.mem_map.mp hc
      have hline := h r hr
      rwa [Result.logLine?_eq, Option.isSome_map] at hline
  · rintro (rfl | hnames)
    · rw [validateAll?_of_not_logs]
      rfl
    · obtain ⟨lines, hlines⟩ := exists_validateAll?_eq hnames e logs s
      rw [hlines]
      rfl

/-- A cut succeeds exactly at the valid positions of a text, and all cuts of the rules do: each
gives what looking at the text gives, so no rule breaks off. A run has one result for each commit,
in order, and with a log one line for each result, if there is no log or each commit has a name for
it: a hash of seven bytes at most, or one with a character that begins after seven bytes. Otherwise
a run comes to nothing. -/
theorem validateAll?_exact (e : Engine) (logs : Bool) (commits : List Commit) (s : Session) :
    (∀ n text, (splitBytes? n text).isSome = true ↔
      (⟨n⟩ : String.Pos.Raw).IsValid (.ofList text)) ∧
    (∀ line, Subject.spacesByBytes? line = some (Subject.spacesAfterColon? line)) ∧
    (∀ subject, Check.subjectKeysByIndex? subject = some (Check.subjectKeys subject)) ∧
    (∀ body, Check.bodyKeysByBytes? body = some (Check.bodyKeys body)) ∧
    (∀ text, Envelope.checkArmoredSshByBytes? text = some (Envelope.checkArmoredSsh text)) ∧
    (∀ text, Armor.firstBlockByBytes? text = some (Armor.firstBlock text)) ∧
    (∀ (rule : Rule) (settings : Settings) (team : Collaborators) (c : Commit) (t : Session),
      rule.checkByBytes? settings team c t = some (rule.check settings team c t)) ∧
    ((e.validateAll? logs commits s).isSome ↔ logs = false ∨
      ∀ c ∈ commits, c.hash.utf8ByteSize ≤ 7 ∨ (⟨7⟩ : String.Pos.Raw).IsValid c.hash) ∧
    ∀ results lines t, e.validateAll? logs commits s = some (results, lines, t) →
      e.validateAll commits s = (results, t) ∧ results.map Result.commit = commits ∧
      (logs = false → lines = []) ∧ (logs → List.Forall₂ Result.IsLoggedAs results lines) := by
  refine ⟨fun n text => isSome_splitBytes?_iff, Subject.spacesByBytes?_eq,
    Check.subjectKeysByIndex?_eq, Check.bodyKeysByBytes?_eq, Envelope.checkArmoredSshByBytes?_eq,
    Armor.firstBlockByBytes?_eq, Rule.checkByBytes?_eq, ?_, ?_⟩
  · rw [isSome_validateAll?_iff]
    exact or_congr_right (forall₂_congr fun c _ => Report.label?_isSome_iff)
  · intro results lines t h
    cases logs with
    | false =>
      rw [validateAll?_of_not_logs] at h
      cases h
      exact ⟨rfl, e.commit_validateAll commits s, fun _ => rfl, (nomatch ·)⟩
    | true =>
      rw [validateAll?_of_logs, Option.map_eq_some_iff] at h
      obtain ⟨lines', hlines, h⟩ := h
      cases h
      refine ⟨rfl, e.commit_validateAll commits s, (nomatch ·), fun _ => ?_⟩
      exact (Entries.mapM_eq_some_iff.mp hlines).imp fun r line => Result.logLine?_eq_some_iff.mp

/-- A commit with a hash of four characters of two bytes each breaks off a run that is logged. -/
theorem not_forall_validateAll? :
    ¬∀ (e : Engine) (logs : Bool) (commits : List Commit) (s : Session), ∃ results lines t,
      e.validateAll? logs commits s = some (results, lines, t) ∧
        results.map Result.commit = commits := by
  intro hall
  let c : Commit := { message := "feat: a", hash := "ÄÖÜÄ" }
  obtain ⟨results, lines, t, hrun, -⟩ := hall (.ofSettings {} {}) true [c] {}
  have hsome : ((Engine.ofSettings {} {}).validateAll? true [c] {}).isSome := by rw [hrun]; rfl
  have hnames := (isSome_validateAll?_iff.mp hsome).resolve_left (by decide)
  have hnone : Report.label? c = none := by decide
  have hname := hnames c List.mem_cons_self
  rw [hnone] at hname
  cases hname

end Engine

end CommitLint
