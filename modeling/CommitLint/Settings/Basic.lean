import CommitLint.Fields

/-!
# Settings

Everything that can be configured, in twelve sections with a default for each field.
-/

namespace CommitLint

/-- The case that the first letter of a subject should have. -/
inductive LetterCase where
  | lower
  | upper
  | ignore
  deriving DecidableEq, Repr, Inhabited

/-- The spelling of English that a message should follow. -/
inductive Locale where
  | us
  | uk
  deriving DecidableEq, Repr, Inhabited

/-- The form of a report. -/
inductive ReportFormat where
  | text
  | json
  | github
  deriving DecidableEq, Repr, Inhabited

namespace Settings

/-- Which rules to run and which to skip. -/
structure RuleLists where
  enabled : List String := []
  disabled : List String := []
  deriving DecidableEq, Repr, Inhabited

/-- What is asked of a subject line. -/
structure SubjectLine where
  maxLength : Nat := 72
  letterCase : LetterCase := .lower
  disallowedSuffixes : String := ".,;:!?"
  deriving DecidableEq, Repr, Inhabited

/-- What is asked of a conventional subject. No types means the standard ones, and no scopes means
any. -/
structure Conventional where
  types : List String := []
  scopes : List String := []
  maxDescriptionLength : Nat := 72
  allowBreaking : Bool := true
  requireScope : Bool := false
  deriving DecidableEq, Repr, Inhabited

/-- What is asked of a body. -/
structure Body where
  required : Bool := false
  minLength : Nat := 10
  allowSignoffOnly : Bool := false
  deriving DecidableEq, Repr, Inhabited

/-- What is asked of sign-off lines. -/
structure SignOff where
  allowMultiple : Bool := true
  deriving DecidableEq, Repr, Inhabited

/-- The kinds of signature that are accepted. -/
structure Signature where
  allowedTypes : List String := ["gpg", "ssh"]
  deriving DecidableEq, Repr, Inhabited

/-- The signers that are accepted, by name, mail address or key; none means any. -/
structure Identity where
  allowedSigners : List String := []
  deriving DecidableEq, Repr, Inhabited

/-- Where issue keys are looked for, and the projects that are accepted; none means any. -/
structure Jira where
  projects : List String := []
  checkBody : Bool := false
  deriving DecidableEq, Repr, Inhabited

/-- Words that the imperative mood has beyond the built-in lists. -/
structure Imperative where
  baseFormsEd : List String := []
  baseFormsS : List String := []
  baseFormsIng : List String := []
  nonVerbs : List String := []
  deriving DecidableEq, Repr, Inhabited

/-- The spelling to follow, with words to leave alone and corrections of one's own. -/
structure Spelling where
  locale : Locale := .us
  ignoreWords : List String := []
  customWords : Fields := .empty
  deriving DecidableEq, Repr, Inhabited

/-- What is asked of the branch, and how long collaborators may take. -/
structure Repository where
  referenceBranch : String := "main"
  maxCommitsAhead : Nat := 20
  skipMergeCommits : Bool := true
  /-- Seconds; zero means without limit. -/
  timeoutSecs : Nat := 30
  deriving DecidableEq, Repr, Inhabited

/-- How results are reported. -/
structure Output where
  format : ReportFormat := .text
  verbose : Bool := false
  color : Bool := true
  deriving DecidableEq, Repr, Inhabited

end Settings

/-- All settings. -/
structure Settings where
  rules : Settings.RuleLists := {}
  subject : Settings.SubjectLine := {}
  conventional : Settings.Conventional := {}
  body : Settings.Body := {}
  signoff : Settings.SignOff := {}
  signature : Settings.Signature := {}
  identity : Settings.Identity := {}
  jira : Settings.Jira := {}
  imperative : Settings.Imperative := {}
  spell : Settings.Spelling := {}
  repository : Settings.Repository := {}
  output : Settings.Output := {}
  deriving DecidableEq, Repr, Inhabited

end CommitLint
