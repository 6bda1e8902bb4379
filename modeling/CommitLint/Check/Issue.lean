import CommitLint.Check.Conventional
import CommitLint.IssueKey
import CommitLint.Trailer

/-!
# Issue references

The message refers to an issue: by a key in the subject, or on a line `Refs:` of the body.
-/

namespace CommitLint.Check

open Text

/-- The projects that the settings allow, in the form in which keys have them. -/
def allowedProjects (settings : Settings.Jira) : List (List Char) :=
  settings.projects.map fun p => upper (trim p.toList)

/-- A token without the brackets or parentheses around it. -/
def unwrapped (token : List Char) : List Char :=
  match (afterStart? ['['] token).bind (beforeEnd? [']'] ·) with
  | some inner => inner
  | none =>
    match (afterStart? ['('] token).bind (beforeEnd? [')'] ·) with
    | some inner => inner
    | none => token

/-- The finding that there is no key in a subject. -/
def missingKey : Finding where
  rule := .jiraReference
  code := .missingJira
  message := "No Jira issue key found in the subject"
  context := .ofList [("expected", "PROJ-123")]

/-- The finding that a subject ends with another word than a key. -/
def misplacedKey (last first : List Char) : Finding where
  rule := .jiraReference
  code := .misplacedJira
  message := "Jira issue key must be the last token of the subject"
  context := .ofList [("actual", .ofList last), ("expected", s!"[{String.ofList first}]")]

/-- Whether a conventional subject ends with a word that is no key. -/
def isMisplaced (subject : List Char) : Bool :=
  (Subject.parse? subject).isSome && !IssueKey.isKey (unwrapped ((words subject).getLastD []))

/-- The keys in a subject, and what is wrong with their place: a key closes a conventional
subject. -/
def subjectKeys (subject : List Char) : List (List Char) × List Finding :=
  match IssueKey.find subject with
  | [] => ([], [missingKey])
  | first :: more =>
    (first :: more,
      if isMisplaced subject then [misplacedKey ((words subject).getLastD []) first] else [])

/-- What a line of references starts with. -/
def refsStart : List Char := "Refs:".toList

/-- Whether some line before the first line of references looks like a sign-off. -/
def signOffPrecedesRefs (ls : List (List Char)) : Bool :=
  (ls.takeWhile (!startsWith refsStart ·)).any Trailer.isSignOffAttempt

/-- The finding that there is no line of references in a body. -/
def missingRefs : Finding where
  rule := .jiraReference
  code := .missingJira
  message := "No 'Refs:' line found in the body"
  context := .ofList [("expected", "Refs: PROJ-123")]

/-- The keys on a line of references among some lines, and what is wrong with it, given what follows
the beginning of the line. -/
def refsKeys (ls : List (List Char)) (line rest : List Char) : List (List Char) × List Finding :=
  let listed := (pieces ',' (trim rest)).map trim
  (listed.filter IssueKey.isKey,
    (if signOffPrecedesRefs ls then
      [{ rule := .jiraReference
         code := .refsAfterSignoff
         message := "'Refs:' line must appear before the Signed-off-by line" }]
    else []) ++
    (if listed.all IssueKey.isKey then []
    else
      [{ rule := .jiraReference
         code := .invalidRefsFormat
         message := "Malformed 'Refs:' line"
         context :=
          .ofList [("actual", .ofList line), ("expected", "Refs: PROJ-123[, PROJ-456]")] }]))

/-- The keys on the first line of references, and what is wrong with it. -/
def bodyKeys (body : List Char) : List (List Char) × List Finding :=
  let ls := (lines body).map trim
  match ls.find? (startsWith refsStart ·) with
  | none => ([], [missingRefs])
  | some line => refsKeys ls line (line.drop refsStart.length)

/-- The finding that the project of a key is not among the allowed ones. -/
def disallowedProject (allowed : List (List Char)) (key : List Char) : Finding where
  rule := .jiraReference
  code := .invalidProject
  message := s!"Jira project '{String.ofList (IssueKey.project key)}' is not allowed"
  context :=
    .ofList
      [("actual", .ofList key), ("expected", commaList "," (allowed.map String.ofList))]

/-- What is wrong with the projects of some keys. -/
def projectFindings (allowed keys : List (List Char)) : List Finding :=
  if allowed.isEmpty then []
  else
    (keys.filter fun key => !allowed.contains (IssueKey.project key)).map
      (disallowedProject allowed)

/-- The outcome for some keys, given what is wrong with the place where they were found. -/
def keysOutcome (settings : Settings.Jira) (keys : List (List Char)) (findings : List Finding) :
    Outcome where
  rule := .jiraReference
  details :=
    .ofList
      [("mode", if settings.checkBody then "body" else "subject"),
        ("found_keys", commaList ", " (keys.map String.ofList))]
  findings := findings ++ projectFindings (allowedProjects settings) keys

/-- The message refers to an issue of an allowed project. -/
def issue (settings : Settings.Jira) (c : Commit) : Outcome :=
  if c.isEmpty then .failure (emptyMessage .jiraReference)
  else
    let (keys, findings) :=
      if settings.checkBody then bodyKeys c.body.toList else subjectKeys c.subject.toList
    keysOutcome settings keys findings

end CommitLint.Check
