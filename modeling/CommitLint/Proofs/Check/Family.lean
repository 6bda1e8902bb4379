import CommitLint.Proofs.Engine.Independence
import CommitLint.Proofs.Summary

/-!
# What each rule can find

Every rule has a family of codes (`Rule.codes`), and a finding is one of a rule if it names the rule
and has a code of the family (`Finding.isOf`). Each list of findings that a check puts together is
shown to consist of such findings where it is put together: most hold at most one (`OneOf`), and
the others are joined from those (`AreOf`). `Rule.areOf_check` collects this for all rules, and
`Rule.oneOf_check` says which of them never report more than one finding.

Since nothing is reported under the name of another rule, the findings that name a rule are those in
its own outcomes (`Outcome.filter_findings`), and a summary counts for each rule its own findings.
-/

namespace CommitLint

open Text

/-- The codes of the findings that a rule can have. -/
def Rule.codes : Rule → List Code
  | .commitBody =>
    [.emptyMessage, .missingBlankLine, .missingBody, .signoffOnlyBody, .bodyTooShort,
      .contentAfterSignoff]
  | .commitsAhead => [.cancelled, .repositoryFailure, .tooManyCommits]
  | .conventionalCommit =>
    [.emptyMessage, .invalidConventionalFormat, .invalidConventionalType, .invalidConventionalScope,
      .invalidScopeFormat, .missingScope, .breakingNotAllowed, .emptyDescription,
      .descriptionTooLong, .spacingError]
  | .imperativeVerb => [.emptySubject, .nonVerb, .pastTense, .gerund, .thirdPerson]
  | .jiraReference =>
    [.emptyMessage, .missingJira, .misplacedJira, .invalidRefsFormat, .refsAfterSignoff,
      .invalidProject]
  | .signature =>
    [.missingSignature, .invalidGpgFormat, .invalidSshFormat, .unknownSignatureFormat,
      .disallowedSignatureType]
  | .signedIdentity =>
    [.missingSignature, .invalidGpgFormat, .invalidSshFormat, .unknownSignatureFormat, .cancelled,
      .verificationFailed, .unauthorizedSigner]
  | .signOff => [.invalidSignoffFormat, .missingSignoff, .multipleSignoffs]
  | .spell => [.misspelling]
  | .subjectCase => [.emptySubject, .invalidCase]
  | .subjectLength => [.subjectTooLong]
  | .subjectSuffix => [.emptySubject, .invalidUtf8, .invalidSuffix]

/-- Whether a finding names a rule and has one of its codes. -/
def Finding.isOf (rule : Rule) (f : Finding) : Bool := f.rule == rule && rule.codes.contains f.code

theorem Finding.isOf_iff {rule : Rule} {f : Finding} :
    f.isOf rule ↔ f.rule = rule ∧ f.code ∈ rule.codes := by
  rw [isOf, Bool.and_eq_true, beq_iff_eq, List.contains_iff_mem]

namespace Check

/-- Findings of one rule. -/
def AreOf (rule : Rule) (findings : List Finding) : Prop := ∀ f ∈ findings, f.isOf rule

/-- No findings, or a single one of a rule. -/
inductive OneOf (rule : Rule) : List Finding → Prop
  | none : OneOf rule []
  | one {f : Finding} : f.isOf rule → OneOf rule [f]

/-- Some finding has a code. -/
def Reports (findings : List Finding) (code : Code) : Prop := ∃ f ∈ findings, f.code = code

section

variable {rule : Rule} {findings more : List Finding} {code : Code}

theorem reports_append :
    Reports (findings ++ more) code ↔ Reports findings code ∨ Reports more code := by
  simp only [Reports, List.mem_append, or_and_right, exists_or]

theorem reports_nil : ¬Reports [] code := fun ⟨_, hf, _⟩ => List.not_mem_nil hf

theorem reports_singleton {f : Finding} : Reports [f] code ↔ f.code = code := by
  simp [Reports]

theorem AreOf.append (h : AreOf rule findings) (hmore : AreOf rule more) :
    AreOf rule (findings ++ more) :=
  List.forall_mem_append.mpr ⟨h, hmore⟩

theorem AreOf.map {α : Type} {finding : α → Finding} (h : ∀ a, (finding a).isOf rule)
    (as : List α) : AreOf rule (as.map finding) :=
  List.forall_mem_map.mpr fun a _ => h a

theorem OneOf.areOf (h : OneOf rule findings) : AreOf rule findings := by
  cases h with
  | none => exact List.forall_mem_nil _
  | one h => exact List.forall_mem_singleton.mpr h

theorem OneOf.length_le (h : OneOf rule findings) : findings.length ≤ 1 := by
  cases h with
  | none => exact Nat.zero_le 1
  | one _ => exact Nat.le_refl 1

end

/-! ### Conventional subjects -/

section Conventional

variable (settings : Settings.Conventional) (s : Subject)

theorem oneOf_typeFindings : OneOf .conventionalCommit (typeFindings settings s) := by
  rw [typeFindings]
  split
  · exact .none
  · exact .one rfl

theorem oneOf_scopeFormFindings : OneOf .conventionalCommit (scopeFormFindings s) := by
  rw [scopeFormFindings]
  split
  · exact .none
  · split
    · exact .none
    · exact .one rfl

theorem areOf_scopeFindings : AreOf .conventionalCommit (scopeFindings settings s) := by
  have hmissing : ∀ p : Prop, [Decidable p] → OneOf .conventionalCommit
      (if p then
        [{ rule := .conventionalCommit
           code := .missingScope
           message := "Scope is required but not provided" }]
      else []) := fun p _ => by
    split
    · exact .one rfl
    · exact .none
  refine (AreOf.append (oneOf_scopeFormFindings s).areOf (hmissing _).areOf).append ?_
  split
  · exact List.forall_mem_nil _
  · exact .map (fun _ => rfl) _

theorem oneOf_breakingFindings : OneOf .conventionalCommit (breakingFindings settings s) := by
  rw [breakingFindings]
  split
  · exact .one rfl
  · exact .none

theorem oneOf_descriptionFindings :
    OneOf .conventionalCommit (descriptionFindings settings s) := by
  rw [descriptionFindings]
  split
  · exact .one rfl
  · split
    · exact .none
    · exact .one rfl

theorem oneOf_spacingFindings (line : List Char) :
    OneOf .conventionalCommit (spacingFindings line) := by
  rw [spacingFindings]
  split
  · exact .none
  · dsimp only
    split
    · exact .none
    · exact .one rfl

theorem areOf_conventional (c : Commit) :
    AreOf .conventionalCommit (conventional settings c).findings := by
  rw [conventional]
  split
  · exact (OneOf.one rfl).areOf
  · rw [subjectOutcome]
    split
    · rename_i s _
      exact ((((oneOf_typeFindings settings s).areOf.append (areOf_scopeFindings settings s)).append
        (oneOf_breakingFindings settings s).areOf).append
        (oneOf_descriptionFindings settings s).areOf).append (oneOf_spacingFindings _).areOf
    · exact List.forall_mem_cons.mpr ⟨rfl, (oneOf_spacingFindings _).areOf⟩

end Conventional

/-! ### Bodies and sign-offs -/

theorem oneOf_blankLineFindings (message : List Char) :
    OneOf .commitBody (blankLineFindings message) := by
  rw [blankLineFindings]
  split
  · exact .none
  · split
    · exact .none
    · exact .one rfl

theorem oneOf_requiredFindings (settings : Settings.Body) (body : List Char) :
    OneOf .commitBody (requiredFindings settings body) := by
  rw [requiredFindings]
  split
  · exact .one rfl
  · split
    · exact .one rfl
    · split
      · exact .one rfl
      · exact .none

theorem oneOf_afterSignOffFindings (body : List Char) :
    OneOf .commitBody (afterSignOffFindings body) := by
  rw [afterSignOffFindings]
  split
  · exact .none
  · exact .one rfl

theorem areOf_body (settings : Settings.Body) (c : Commit) :
    AreOf .commitBody (body settings c).findings := by
  rw [body]
  split
  · exact (OneOf.one rfl).areOf
  · refine ((oneOf_blankLineFindings _).areOf.append ?_).append
      (oneOf_afterSignOffFindings _).areOf
    split
    · exact (oneOf_requiredFindings settings _).areOf
    · exact List.forall_mem_nil _

theorem oneOf_signOffFindings (settings : Settings.SignOff) (body : List Char) :
    OneOf .signOff (signOffFindings settings body) := by
  rw [signOffFindings]
  split
  · split
    · exact .one rfl
    · exact .one rfl
  · split
    · exact .one rfl
    · exact .none

theorem oneOf_signOff (settings : Settings.SignOff) (c : Commit) :
    OneOf .signOff (signOff settings c).findings := by
  rw [signOff]
  dsimp only
  exact oneOf_signOffFindings settings c.body.toList

/-! ### Issue references -/

theorem oneOf_subjectKeys (subject : List Char) : OneOf .jiraReference (subjectKeys subject).2 := by
  rw [subjectKeys.eq_def]
  split
  · exact .one rfl
  · dsimp only
    split
    · exact .one rfl
    · exact .none

theorem areOf_refsKeys (ls : List (List Char)) (line rest : List Char) :
    AreOf .jiraReference (refsKeys ls line rest).2 := by
  rw [refsKeys]
  refine AreOf.append ?_ ?_
  · split
    · exact (OneOf.one rfl).areOf
    · exact List.forall_mem_nil _
  · split
    · exact List.forall_mem_nil _
    · exact (OneOf.one rfl).areOf

theorem areOf_bodyKeys (body : List Char) : AreOf .jiraReference (bodyKeys body).2 := by
  rw [bodyKeys]
  split
  · exact (OneOf.one rfl).areOf
  · exact areOf_refsKeys _ _ _

theorem areOf_projectFindings (allowed keys : List (List Char)) :
    AreOf .jiraReference (projectFindings allowed keys) := by
  rw [projectFindings]
  split
  · exact List.forall_mem_nil _
  · exact .map (fun _ => rfl) _

theorem areOf_issue (settings : Settings.Jira) (c : Commit) :
    AreOf .jiraReference (issue settings c).findings := by
  rw [issue]
  split
  · exact (OneOf.one rfl).areOf
  · dsimp only
    rw [keysOutcome]
    refine AreOf.append ?_ (areOf_projectFindings _ _)
    by_cases hbody : settings.checkBody = true
    · rw [if_pos hbody]
      exact areOf_bodyKeys _
    · rw [if_neg hbody]
      exact (oneOf_subjectKeys _).areOf

/-! ### Subjects and words -/

theorem isOf_moodFinding {settings : Settings.Imperative} {word : List Char} {code : Code}
    {problem : String} (h : moodFault? settings word = some (code, problem)) (shown : String) :
    (moodFinding shown code problem).isOf .imperativeVerb := by
  rw [moodFault?] at h
  split_ifs at h <;> cases h <;> rfl

theorem oneOf_mood (settings : Settings.Imperative) (c : Commit) :
    OneOf .imperativeVerb (mood settings c).findings := by
  rw [mood]
  split
  · exact .one rfl
  · split
    · exact .none
    · dsimp only
      split
      · exact .none
      · rename_i hfault
        exact .one (isOf_moodFinding hfault _)

theorem areOf_spellFindings (table : List (String × String)) (skipped words : List String) :
    AreOf .spell (spellFindings table skipped words) := by
  induction words generalizing skipped with
  | nil => exact List.forall_mem_nil _
  | cons word more ih =>
    rw [spellFindings]
    split
    · exact ih skipped
    · exact List.forall_mem_cons.mpr ⟨rfl, ih _⟩

theorem areOf_spelling (settings : Settings.Spelling) (c : Commit) :
    AreOf .spell (spelling settings c).findings := by
  rw [spelling]
  dsimp only
  exact areOf_spellFindings _ _ _

theorem oneOf_subjectCase (settings : Settings.SubjectLine) (c : Commit) :
    OneOf .subjectCase (subjectCase settings c).findings := by
  rw [subjectCase]
  dsimp only
  split
  · exact .one rfl
  · split
    · exact .none
    · dsimp only
      split
      · exact .one rfl
      · exact .none

theorem oneOf_subjectLength (settings : Settings.SubjectLine) (c : Commit) :
    OneOf .subjectLength (subjectLength settings c).findings := by
  rw [subjectLength]
  dsimp only
  split
  · exact .none
  · exact .one rfl

theorem oneOf_subjectSuffix (settings : Settings.SubjectLine) (c : Commit) :
    OneOf .subjectSuffix (subjectSuffix settings c).findings := by
  rw [subjectSuffix]
  split
  · exact .one rfl
  · split
    · exact .one rfl
    · split
      · exact .one rfl
      · exact .none

/-! ### Signatures, signers and branches -/

/-- Both rules on signatures have all codes of refused envelopes. -/
theorem isOf_checkEnvelope {rule : Rule} (hrule : rule = .signature ∨ rule = .signedIdentity)
    {explain : String → String} {c : Commit} {finding : Finding}
    (h : checkEnvelope explain rule c = .error finding) : finding.isOf rule := by
  have hfault : (Envelope.judge c.signature.toList).fault ≠ none := fun hnone => by
    rw [checkEnvelope_of_accepted hnone] at h
    cases h
  obtain ⟨code, hrejects⟩ := exists_rejectsAs hfault
  obtain ⟨other, hother, hcode⟩ := checkEnvelope_of_rejectsAs hrejects
  rw [h] at hother
  cases hother
  refine Finding.isOf_iff.mpr ⟨Rule.rule_checkEnvelope h, ?_⟩
  rw [hcode]
  rcases hrule with rfl | rfl <;> cases hrejects <;> decide

theorem oneOf_signature (explain : String → String) (settings : Settings.Signature) (c : Commit) :
    OneOf .signature (signature explain settings c).findings := by
  rw [signature, signatureOutcome.eq_def]
  split
  · rename_i h
    exact .one (isOf_checkEnvelope (.inl rfl) h)
  · dsimp only
    split
    · exact .none
    · exact .one rfl

theorem oneOf_signerFindings (settings : Settings.Identity) (signer : Signer) :
    OneOf .signedIdentity (signerFindings settings signer) := by
  rw [signerFindings]
  split
  · exact .none
  · exact .one rfl

theorem oneOf_signerOutcome (settings : Settings.Identity) (reply : VerifyReply) :
    OneOf .signedIdentity (signerOutcome settings reply).findings := by
  rw [signerOutcome.eq_def]
  split
  · exact .one rfl
  · exact .one rfl
  · exact oneOf_signerFindings settings _

theorem oneOf_signedIdentity (settings : Settings.Identity) (team : Collaborators) (c : Commit)
    (s : Session) : OneOf .signedIdentity (signedIdentity settings team c s).1.findings := by
  rw [signedIdentity, identityOutcome.eq_def]
  split
  · rename_i h
    exact .one (isOf_checkEnvelope (.inr rfl) h)
  · split
    · exact .none
    · split
      · exact .one rfl
      · exact oneOf_signerOutcome settings _

theorem oneOf_aheadOutcome (settings : Settings.Repository) (ahead : Nat) :
    OneOf .commitsAhead (aheadOutcome settings ahead).findings := by
  rw [aheadOutcome]
  dsimp only
  split
  · exact .none
  · exact .one rfl

theorem oneOf_aheadReplyOutcome (settings : Settings.Repository) (reply : AheadReply) :
    OneOf .commitsAhead (aheadReplyOutcome settings reply).findings := by
  rw [aheadReplyOutcome.eq_def]
  split
  · exact oneOf_aheadOutcome settings _
  · exact oneOf_aheadOutcome settings 0
  · exact .one rfl
  · exact .one rfl

theorem oneOf_commitsAhead (settings : Settings.Repository) (team : Collaborators) (s : Session) :
    OneOf .commitsAhead (commitsAhead settings team s).1.findings := by
  rw [commitsAhead]
  split
  · exact .none
  · split
    · exact .one rfl
    · exact oneOf_aheadReplyOutcome settings _

end Check

/-! ### All rules -/

namespace Rule

/-- The rules that may have several findings about a commit. -/
def mayRepeat : List Rule := [.commitBody, .conventionalCommit, .jiraReference, .spell]

/-- The other rules have at most one finding about a commit, of their own. -/
theorem oneOf_check {rule : Rule} (h : rule ∉ mayRepeat) (settings : Settings)
    (team : Collaborators) (c : Commit) (s : Session) :
    Check.OneOf rule (rule.check settings team c s).1.findings := by
  cases rule with
  | commitsAhead => exact Check.oneOf_commitsAhead settings.repository team s
  | imperativeVerb => exact Check.oneOf_mood settings.imperative c
  | signature => exact Check.oneOf_signature team.explain settings.signature c
  | signedIdentity => exact Check.oneOf_signedIdentity settings.identity team c s
  | signOff => exact Check.oneOf_signOff settings.signoff c
  | subjectCase => exact Check.oneOf_subjectCase settings.subject c
  | subjectLength => exact Check.oneOf_subjectLength settings.subject c
  | subjectSuffix => exact Check.oneOf_subjectSuffix settings.subject c
  | commitBody | conventionalCommit | jiraReference | spell => exact absurd (by decide) h

/-- All findings of a rule are its own. -/
theorem areOf_check (rule : Rule) (settings : Settings) (team : Collaborators) (c : Commit)
    (s : Session) : Check.AreOf rule (rule.check settings team c s).1.findings := by
  by_cases h : rule ∉ mayRepeat
  · exact (oneOf_check h settings team c s).areOf
  cases rule with
  | commitBody => exact Check.areOf_body settings.body c
  | conventionalCommit => exact Check.areOf_conventional settings.conventional c
  | jiraReference => exact Check.areOf_issue settings.jira c
  | spell => exact Check.areOf_spelling settings.spell c
  | _ => exact absurd (by decide) h

end Rule

/-! ### Results and summaries -/

/-- In each outcome of a pass over a commit, all findings are those of the rule that it names. -/
theorem Engine.areOf_runRules (e : Engine) (c : Commit) (rules : List Rule) (s : Session) :
    ∀ o ∈ (e.runRules c rules s).1, Check.AreOf o.rule o.findings := by
  induction rules generalizing s with
  | nil => exact List.forall_mem_nil _
  | cons rule rules ih =>
    have hrule : (rule.check e.settings e.team c s).1.rule = rule := by
      rw [Rule.check_eq]
      exact Rule.rule_outcome rule e.settings e.team c s.cancelled _
    rw [runRules]
    refine List.forall_mem_cons.mpr ⟨?_, ih _⟩
    rw [hrule]
    exact rule.areOf_check e.settings e.team c s

/-- Among the findings of some outcomes, those that name a rule are those of its own outcomes, if no
outcome has findings of another rule. -/
theorem Outcome.filter_findings {outcomes : List Outcome}
    (h : ∀ o ∈ outcomes, Check.AreOf o.rule o.findings) (rule : Rule) :
    (outcomes.flatMap findings).filter (·.rule == rule) =
      (outcomes.filter (·.rule == rule)).flatMap findings := by
  induction outcomes with
  | nil => rfl
  | cons o outcomes ih =>
    obtain ⟨ho, houtcomes⟩ := List.forall_mem_cons.mp h
    have hname : ∀ f ∈ o.findings, f.rule = o.rule := fun f hf => (Finding.isOf_iff.mp (ho f hf)).1
    rw [List.flatMap_cons, List.filter_append, ih houtcomes, List.filter_cons]
    by_cases heq : o.rule = rule
    · rw [if_pos (beq_iff_eq.mpr heq), List.flatMap_cons,
        List.filter_eq_self.mpr fun f hf => by rw [hname f hf, beq_iff_eq, heq]]
    · rw [if_neg (by simpa using heq),
        List.filter_eq_nil_iff.mpr fun f hf => by rwa [hname f hf, beq_iff_eq], List.nil_append]

namespace Engine

/-- The findings of a rule in a run over some commits. -/
theorem filter_findings_validateAll (e : Engine) (commits : List Commit) (s : Session)
    (rule : Rule) :
    ((e.validateAll commits s).1.flatMap Result.findings).filter (·.rule == rule) =
      ((e.validateAll commits s).1.flatMap (·.outcomesOf rule)).flatMap Outcome.findings := by
  have hresult : ∀ r ∈ (e.validateAll commits s).1, r.findings.filter (·.rule == rule) =
      (r.outcomesOf rule).flatMap Outcome.findings := by
    intro r hr
    obtain ⟨c, t, rfl⟩ := exists_of_mem_validateAll hr
    refine Outcome.filter_findings (fun o ho => ?_) rule
    rw [validate_eq] at ho
    exact e.areOf_runRules c e.rules t o (List.mem_mergeSort.mp ho)
  rw [List.filter_flatMap, List.flatMap_assoc]
  exact List.flatMap_congr hresult

end Engine

namespace Rule

/-- A rule speaks for itself: its outcome names it, and so do all findings, which have codes of its
family; most rules have at most one. So the findings of a run that name the rule are those of its
own outcomes, and a summary counts just these for it. -/
theorem check_own (rule : Rule) (settings : Settings) (team : Collaborators) (c : Commit)
    (s : Session) :
    let outcome := (rule.check settings team c s).1
    outcome.rule = rule ∧ (∀ f ∈ outcome.findings, f.rule = rule ∧ f.code ∈ rule.codes) ∧
      (rule ∉ mayRepeat → outcome.findings.length ≤ 1) ∧
      ∀ (e : Engine) (commits : List Commit) (s : Session),
        let results := (e.validateAll commits s).1
        let own := (results.flatMap (·.outcomesOf rule)).flatMap Outcome.findings
        (results.flatMap Result.findings).filter (·.rule == rule) = own ∧
          (Summary.ofResults results).ruleFailures.lookup rule =
            if own.length = 0 then none else some own.length := by
  refine ⟨?_, fun f hf => Finding.isOf_iff.mp (rule.areOf_check settings team c s f hf),
    fun h => (oneOf_check h settings team c s).length_le, fun e commits s => ?_⟩
  · rw [check_eq]
    exact rule.rule_outcome settings team c s.cancelled _
  · have hown := e.filter_findings_validateAll commits s rule
    refine ⟨hown, ?_⟩
    rw [← hown, ← List.countP_eq_length_filter]
    exact Summary.lookup_countByRule _ rule

/-- Three rules look for an empty message. -/
example : all.filter (·.codes.contains .emptyMessage) =
    [.commitBody, .conventionalCommit, .jiraReference] := by decide

/-- A commit without a sign-off, which another rule has nothing to say about. -/
theorem check_own_unsigned :
    let e : Engine := { settings := {}, rules := [.subjectLength, .signOff], team := {} }
    let c : Commit := { message := "feat: a" }
    let results := (e.validateAll [c] {}).1
    Rule.signOff ∉ mayRepeat ∧ (check .signOff {} {} c {}).1.findings.length ≤ 1 ∧
      (Summary.ofResults results).ruleFailures.lookup .signOff = some 1 ∧
      (Summary.ofResults results).ruleFailures.lookup .subjectLength = none := by
  intro e c results
  have hnot : Rule.signOff ∉ mayRepeat := by decide
  have hresults : ∀ rule,
      results.flatMap (·.outcomesOf rule) = (e.validate c {}).1.outcomesOf rule :=
    fun rule => List.append_nil _
  obtain ⟨-, -, hlength, hsignOff⟩ := check_own .signOff {} {} c {}
  obtain ⟨-, -, -, hother⟩ := check_own .subjectLength {} {} c {}
  refine ⟨hnot, hlength hnot, (hsignOff e [c] {}).2.trans ?_, (hother e [c] {}).2.trans ?_⟩
  · rw [hresults, e.outcomesOf_validate]
    decide +kernel
  · rw [hresults, e.outcomesOf_validate]
    decide +kernel

end Rule

end CommitLint
