import CommitLint.Text.Casing
import CommitLint.Text.Piece

/-!
# The rules

Twelve rules, in the order of their names, which is also the order of every report. A configuration
names rules loosely: case, blanks and quotes around a name do not count.
-/

namespace CommitLint

/-- A rule for commits. -/
inductive Rule where
  | commitBody
  | commitsAhead
  | conventionalCommit
  | imperativeVerb
  | jiraReference
  | signature
  | signedIdentity
  | signOff
  | spell
  | subjectCase
  | subjectLength
  | subjectSuffix
  deriving DecidableEq, Repr, Inhabited

namespace Rule

open Text

/-- Every rule, in the order of the names. -/
def all : List Rule :=
  [.commitBody, .commitsAhead, .conventionalCommit, .imperativeVerb, .jiraReference, .signature,
    .signedIdentity, .signOff, .spell, .subjectCase, .subjectLength, .subjectSuffix]

/-- The name of a rule. -/
def name : Rule → String
  | .commitBody => "commitbody"
  | .commitsAhead => "commitsahead"
  | .conventionalCommit => "conventionalcommit"
  | .imperativeVerb => "imperativeverb"
  | .jiraReference => "jirareference"
  | .signature => "signature"
  | .signedIdentity => "signedidentity"
  | .signOff => "signoff"
  | .spell => "spell"
  | .subjectCase => "subjectcase"
  | .subjectLength => "subjectlength"
  | .subjectSuffix => "subjectsuffix"

/-- What a rule asks for, in a few words. -/
def description : Rule → String
  | .commitBody => "Body is separated by a blank line and well formed"
  | .commitsAhead => "Branch is not too far ahead of the reference branch"
  | .conventionalCommit => "Subject follows Conventional Commits"
  | .imperativeVerb => "Subject starts with an imperative verb"
  | .jiraReference => "Message references a Jira issue"
  | .signature => "Commit carries a well-formed GPG or SSH signature"
  | .signedIdentity => "Signature verifies and comes from an allowed signer"
  | .signOff => "Body carries a Signed-off-by trailer"
  | .spell => "Message has no common misspellings"
  | .subjectCase => "Subject starts with the configured letter case"
  | .subjectLength => "Subject fits the maximum length"
  | .subjectSuffix => "Subject does not end with punctuation"

/-- The place of a rule in the order of the names. -/
def rank (r : Rule) : Nat := all.idxOf r

/-- Whether a rule does not stand after another in the order of the names. -/
def le (r s : Rule) : Bool := r.rank ≤ s.rank

/-- The marks that may enclose a name in a configuration. -/
def isQuote (c : Char) : Bool := c == '"' || c == '\'' || c == '\x60'

/-- The normal form of a name: without blanks and quotes around it, in lower case. -/
def cleanName (name : List Char) : List Char := lower (trim (trimBoth isQuote (trim name)))

/-- The rule that a name in a configuration means. -/
def ofName? (name : List Char) : Option Rule :=
  all.find? fun r => r.name.toList == cleanName name

end Rule

end CommitLint
