import CommitLint.Fields
import CommitLint.Rule.Basic

/-!
# Findings

What a rule reports about a commit: a stable code, a message, a piece of advice, and named texts
such as what was found and what was expected.
-/

namespace CommitLint

/-- The stable codes of findings. -/
inductive Code where
  | emptyMessage
  | emptySubject
  | subjectTooLong
  | invalidCase
  | invalidSuffix
  | invalidUtf8
  | invalidConventionalFormat
  | invalidConventionalType
  | invalidConventionalScope
  | invalidScopeFormat
  | missingScope
  | breakingNotAllowed
  | emptyDescription
  | descriptionTooLong
  | spacingError
  | missingBody
  | bodyTooShort
  | missingBlankLine
  | signoffOnlyBody
  | contentAfterSignoff
  | missingSignoff
  | invalidSignoffFormat
  | multipleSignoffs
  | missingSignature
  | invalidGpgFormat
  | invalidSshFormat
  | unknownSignatureFormat
  | disallowedSignatureType
  | verificationFailed
  | unauthorizedSigner
  | missingJira
  | misplacedJira
  | invalidProject
  | invalidRefsFormat
  | refsAfterSignoff
  | pastTense
  | gerund
  | thirdPerson
  | nonVerb
  | misspelling
  | tooManyCommits
  | repositoryFailure
  | cancelled
  deriving DecidableEq, Repr, Inhabited

namespace Code

/-- Every code, in the order of declaration. -/
def all : List Code :=
  [.emptyMessage, .emptySubject, .subjectTooLong, .invalidCase, .invalidSuffix, .invalidUtf8,
    .invalidConventionalFormat, .invalidConventionalType, .invalidConventionalScope,
    .invalidScopeFormat, .missingScope, .breakingNotAllowed, .emptyDescription,
    .descriptionTooLong, .spacingError, .missingBody, .bodyTooShort, .missingBlankLine,
    .signoffOnlyBody, .contentAfterSignoff, .missingSignoff, .invalidSignoffFormat,
    .multipleSignoffs, .missingSignature, .invalidGpgFormat, .invalidSshFormat,
    .unknownSignatureFormat, .disallowedSignatureType, .verificationFailed, .unauthorizedSigner,
    .missingJira, .misplacedJira, .invalidProject, .invalidRefsFormat, .refsAfterSignoff,
    .pastTense, .gerund, .thirdPerson, .nonVerb, .misspelling, .tooManyCommits, .repositoryFailure,
    .cancelled]

/-- The text of a code. -/
def name : Code → String
  | .emptyMessage => "empty_message"
  | .emptySubject => "empty_subject"
  | .subjectTooLong => "subject_too_long"
  | .invalidCase => "invalid_case"
  | .invalidSuffix => "invalid_suffix"
  | .invalidUtf8 => "invalid_utf8"
  | .invalidConventionalFormat => "invalid_conventional_format"
  | .invalidConventionalType => "invalid_conventional_type"
  | .invalidConventionalScope => "invalid_conventional_scope"
  | .invalidScopeFormat => "invalid_scope_format"
  | .missingScope => "missing_scope"
  | .breakingNotAllowed => "breaking_not_allowed"
  | .emptyDescription => "empty_description"
  | .descriptionTooLong => "description_too_long"
  | .spacingError => "spacing_error"
  | .missingBody => "missing_body"
  | .bodyTooShort => "body_too_short"
  | .missingBlankLine => "missing_blank_line"
  | .signoffOnlyBody => "only_signoff"
  | .contentAfterSignoff => "content_after_signoff"
  | .missingSignoff => "missing_signoff"
  | .invalidSignoffFormat => "invalid_format"
  | .multipleSignoffs => "multiple_signoffs"
  | .missingSignature => "missing_signature"
  | .invalidGpgFormat => "invalid_gpg_format"
  | .invalidSshFormat => "invalid_ssh_format"
  | .unknownSignatureFormat => "unknown_signature_format"
  | .disallowedSignatureType => "disallowed_signature_type"
  | .verificationFailed => "verification_failed"
  | .unauthorizedSigner => "unauthorized_signer"
  | .missingJira => "missing_jira"
  | .misplacedJira => "misplaced_jira"
  | .invalidProject => "invalid_project"
  | .invalidRefsFormat => "invalid_refs_format"
  | .refsAfterSignoff => "refs_after_signoff"
  | .pastTense => "past_tense"
  | .gerund => "gerund"
  | .thirdPerson => "third_person"
  | .nonVerb => "non_verb"
  | .misspelling => "misspelling"
  | .tooManyCommits => "too_many_commits"
  | .repositoryFailure => "git_error"
  | .cancelled => "cancelled"

/-- The advice that belongs to a code. -/
def help : Code → String
  | .emptyMessage => "Write a commit message."
  | .emptySubject => "Write a subject line summarizing the change."
  | .subjectTooLong => "Shorten the subject; move details into the body."
  | .invalidCase => "Change the case of the first letter of the subject."
  | .invalidSuffix => "Remove the trailing punctuation from the subject."
  | .invalidUtf8 => "Re-encode the commit message as UTF-8."
  | .invalidConventionalFormat =>
    "Use the form 'type(scope): description', e.g. 'feat(auth): add login'."
  | .invalidConventionalType => "Use one of the allowed commit types."
  | .invalidConventionalScope => "Use one of the allowed scopes."
  | .invalidScopeFormat =>
    "Separate multiple scopes with single commas and no spaces, e.g. 'feat(ui,api): ...'."
  | .missingScope => "Add a scope in parentheses: 'type(scope): description'."
  | .breakingNotAllowed => "Remove the '!' marker; breaking changes are not accepted here."
  | .emptyDescription => "Add a description after 'type: '."
  | .descriptionTooLong => "Shorten the description; move details into the body."
  | .spacingError => "Put exactly one space after the colon."
  | .missingBody => "Add a body explaining what changed and why."
  | .bodyTooShort => "Expand the body with more detail."
  | .missingBlankLine => "Separate the subject from the body with a blank line."
  | .signoffOnlyBody => "Describe the change in the body, not just sign-off lines."
  | .contentAfterSignoff =>
    "Move descriptive text above the Signed-off-by line; only trailers may follow it."
  | .missingSignoff => "Add a sign-off with 'git commit -s'."
  | .invalidSignoffFormat => "Use the exact form 'Signed-off-by: Name <email@example.com>'."
  | .multipleSignoffs => "Keep a single Signed-off-by line."
  | .missingSignature => "Sign the commit with 'git commit -S'."
  | .invalidGpgFormat => "Re-sign the commit with 'git commit --amend -S'."
  | .invalidSshFormat => "Re-sign the commit with 'git commit --amend -S'."
  | .unknownSignatureFormat => "Sign with a GPG or SSH key (git config gpg.format openpgp|ssh)."
  | .disallowedSignatureType => "Sign with one of the allowed key types."
  | .verificationFailed =>
    "Make sure the signing key is trusted by the verifier and re-sign the commit."
  | .unauthorizedSigner => "Sign the commit with an allowed identity."
  | .missingJira => "Reference a Jira issue, e.g. 'PROJ-123'."
  | .misplacedJira =>
    "Put the Jira key at the end of the subject, e.g. 'feat: add login [PROJ-123]'."
  | .invalidProject => "Reference an issue from one of the allowed projects."
  | .invalidRefsFormat => "Use the form 'Refs: PROJ-123, PROJ-456'."
  | .refsAfterSignoff => "Move the Refs line above the Signed-off-by line."
  | .pastTense => "Use the imperative mood, e.g. 'add' instead of 'added', 'adding' or 'adds'."
  | .gerund => "Use the imperative mood, e.g. 'add' instead of 'added', 'adding' or 'adds'."
  | .thirdPerson => "Use the imperative mood, e.g. 'add' instead of 'added', 'adding' or 'adds'."
  | .nonVerb => "Start the subject with a verb, e.g. 'fix', 'add', 'remove'."
  | .misspelling => "Fix the spelling."
  | .tooManyCommits => "Rebase onto the reference branch or split the work."
  | .repositoryFailure => "Check that the repository and reference branch are readable."
  | .cancelled => "Re-run validation with a longer timeout."

/-- The code of a given text. -/
def ofName? (text : String) : Option Code := all.find? (·.name == text)

end Code

/-- What a rule found wrong with a commit. -/
structure Finding where
  rule : Rule
  code : Code
  message : String
  help : String := code.help
  context : Fields := .empty
  deriving DecidableEq, Repr, Inhabited

namespace Finding

/-- A finding in one line. -/
def line (f : Finding) : String := s!"{f.rule.name} [{f.code.name}]: {f.message}"

end Finding

/-- What one rule says about one commit. -/
structure Outcome where
  rule : Rule
  findings : List Finding := []
  /-- What the rule saw, for reports that show it. -/
  details : Fields := .empty
  deriving DecidableEq, Repr, Inhabited

namespace Outcome

/-- Whether the rule found nothing wrong. -/
def passed (o : Outcome) : Bool := o.findings.isEmpty

/-- The outcome of a rule that stops at one finding. -/
def failure (f : Finding) : Outcome where
  rule := f.rule
  findings := [f]

end Outcome

end CommitLint
