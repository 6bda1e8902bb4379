import CommitLint.Check.Body
import CommitLint.Check.Divergence
import CommitLint.Check.Issue
import CommitLint.Check.Mood
import CommitLint.Check.Signature
import CommitLint.Check.Spelling
import CommitLint.Check.SubjectLine
import CommitLint.Rule.Activation

/-!
# Running the rules

An engine runs its rules over commits, one after the other, and passes the session along. The
outcomes of a commit are reported in the order of the rule names, whatever the order of the rules.
-/

namespace CommitLint

/-- What all rules say about one commit, in the order of their names. -/
structure Result where
  commit : Commit
  outcomes : List Outcome
  deriving DecidableEq, Repr, Inhabited

namespace Result

/-- The result of a commit with some outcomes, which are put in the order of the rule names;
outcomes of one rule keep their order. -/
def ofOutcomes (c : Commit) (outcomes : List Outcome) : Result :=
  ⟨c, outcomes.mergeSort fun o p => o.rule.le p.rule⟩

/-- Every finding, in the order of the rule names. -/
def findings (r : Result) : List Finding := r.outcomes.flatMap Outcome.findings

/-- Whether no rule found anything. -/
def passed (r : Result) : Bool := r.outcomes.all Outcome.passed

/-- The outcome of a rule, if it ran. -/
def outcome? (r : Result) (rule : Rule) : Option Outcome := r.outcomes.find? (·.rule == rule)

end Result

/-- What a rule says about a commit. Two rules ask collaborators; the others look at the commit
alone. -/
def Rule.check (rule : Rule) (settings : Settings) (team : Collaborators) (c : Commit)
    (s : Session) : Outcome × Session :=
  match rule with
  | .commitBody => (Check.body settings.body c, s)
  | .commitsAhead => Check.commitsAhead settings.repository team s
  | .conventionalCommit => (Check.conventional settings.conventional c, s)
  | .imperativeVerb => (Check.mood settings.imperative c, s)
  | .jiraReference => (Check.issue settings.jira c, s)
  | .signature => (Check.signature team.explain settings.signature c, s)
  | .signedIdentity => Check.signedIdentity settings.identity team c s
  | .signOff => (Check.signOff settings.signoff c, s)
  | .spell => (Check.spelling settings.spell c, s)
  | .subjectCase => (Check.subjectCase settings.subject c, s)
  | .subjectLength => (Check.subjectLength settings.subject c, s)
  | .subjectSuffix => (Check.subjectSuffix settings.subject c, s)

/-- Some rules, what they are configured with, and whom they may ask. -/
structure Engine where
  settings : Settings
  rules : List Rule
  team : Collaborators

namespace Engine

/-- The engine that runs the rules that are active under some settings. -/
def ofSettings (settings : Settings) (team : Collaborators) : Engine where
  settings := settings
  rules := Rule.active settings.rules.enabled settings.rules.disabled
  team := team

/-- The rules of an engine, in the order of their names. -/
def activeRules (e : Engine) : List Rule := e.rules.mergeSort Rule.le

/-- The outcomes of some rules, in the order of the rules. -/
def runRules (e : Engine) (c : Commit) : List Rule → Session → List Outcome × Session
  | [], s => ([], s)
  | rule :: rules, s =>
    let (outcome, s) := rule.check e.settings e.team c s
    let (outcomes, s) := e.runRules c rules s
    (outcome :: outcomes, s)

/-- The result of a commit. -/
def validate (e : Engine) (c : Commit) (s : Session) : Result × Session :=
  let (outcomes, s) := e.runRules c e.rules s
  (.ofOutcomes c outcomes, s)

/-- The results of some commits, in the order of the commits. -/
def validateAll (e : Engine) : List Commit → Session → List Result × Session
  | [], s => ([], s)
  | c :: cs, s =>
    let (result, s) := e.validate c s
    let (results, s) := e.validateAll cs s
    (result :: results, s)

end Engine

end CommitLint
