import CommitLint.Commit
import CommitLint.Finding
import CommitLint.Settings.Basic
import CommitLint.Subject

/-!
# Conventional subjects

The subject follows the grammar of conventional commits, with an allowed type, allowed scopes, and
exactly one space before a description that is not too long.
-/

namespace CommitLint.Check

open Text

/-- The texts with a separator between neighbours. -/
def commaList (sep : String) (texts : List String) : String := sep.intercalate texts

/-- The types that the settings allow. -/
def allowedTypes (settings : Settings.Conventional) : List String :=
  if settings.types.isEmpty then Subject.standardTypes else settings.types

/-- What is wrong with the type of a subject. -/
def typeFindings (settings : Settings.Conventional) (s : Subject) : List Finding :=
  let type := String.ofList s.type
  let allowed := allowedTypes settings
  if allowed.contains type then []
  else
    [{ rule := .conventionalCommit
       code := .invalidConventionalType
       message := s!"Commit type '{type}' is not allowed"
       help := "Use one of: " ++ commaList ", " allowed
       context := .ofList [("actual", type), ("expected", commaList "," allowed)] }]

/-- Whether a text is one well-formed scope. -/
def isScope (s : List Char) : Bool :=
  !s.isEmpty && s.all fun c => isWordChar c || c == '/' || c == '-'

/-- What is wrong with the text between the parentheses of a subject. -/
def scopeFormFindings (s : Subject) : List Finding :=
  match s.rawScope with
  | none => []
  | some raw =>
    if (pieces ',' raw).all isScope then []
    else
      [{ rule := .conventionalCommit
         code := .invalidScopeFormat
         message := s!"Scope '{String.ofList raw}' is not a comma-separated list of scopes"
         context := .ofList [("actual", .ofList raw), ("expected", "scope[,scope...]")] }]

/-- The finding that a scope is not among the allowed ones. -/
def disallowedScope (allowed : List String) (scope : String) : Finding where
  rule := .conventionalCommit
  code := .invalidConventionalScope
  message := s!"Scope '{scope}' is not allowed"
  help := "Use one of: " ++ commaList ", " allowed
  context := .ofList [("actual", scope), ("expected", commaList "," allowed)]

/-- What is wrong with the scopes of a subject. -/
def scopeFindings (settings : Settings.Conventional) (s : Subject) : List Finding :=
  scopeFormFindings s ++
  (if settings.requireScope && s.scopes.isEmpty then
    [{ rule := .conventionalCommit
       code := .missingScope
       message := "Scope is required but not provided" }]
  else []) ++
  (if settings.scopes.isEmpty then []
  else
    ((s.scopes.map String.ofList).filter (!settings.scopes.contains ·)).map
      (disallowedScope settings.scopes))

/-- What is wrong with the mark of a breaking change. -/
def breakingFindings (settings : Settings.Conventional) (s : Subject) : List Finding :=
  if s.breaking && !settings.allowBreaking then
    [{ rule := .conventionalCommit
       code := .breakingNotAllowed
       message := "Breaking change marker '!' is not allowed" }]
  else []

/-- What is wrong with the description of a subject. -/
def descriptionFindings (settings : Settings.Conventional) (s : Subject) : List Finding :=
  let length := s.description.length
  let max := settings.maxDescriptionLength
  if isBlankText s.description then
    [{ rule := .conventionalCommit
       code := .emptyDescription
       message := "Description is empty" }]
  else if length ≤ max then []
  else
    [{ rule := .conventionalCommit
       code := .descriptionTooLong
       message := s!"Description is too long: {length} characters (max: {max})"
       context :=
        .ofList [("actual_length", toString length), ("max_length", toString max)] }]

/-- What follows the characters that a scope may hold when only parentheses are excluded. -/
def afterLooseScope (s : List Char) : List Char :=
  match s with
  | '(' :: rest =>
    match rest.dropWhile fun c => c != '(' && c != ')' with
    | ')' :: after => after
    | _ => s
  | _ => s

/-- Whether a text before a colon looks like the head of a conventional subject: a word, perhaps
something in parentheses, perhaps an exclamation mark. -/
def looksLikeHead (s : List Char) : Bool :=
  !(s.takeWhile isNameChar).isEmpty &&
    match afterLooseScope (s.dropWhile isNameChar) with
    | [] => true
    | ['!'] => true
    | _ => false

/-- The finding that some other number of spaces than one follows the colon. -/
def wrongSpacing (spaces : Nat) : Finding where
  rule := .conventionalCommit
  code := .spacingError
  message := s!"Expected exactly one space after the colon, found {spaces}"
  context := .ofList [("actual", toString spaces), ("expected", "1")]

/-- What is wrong with the blanks after the colon. A head with nothing after it has nothing
wrong. -/
def spacingFindings (line : List Char) : List Finding :=
  match cutAt ':' line with
  | none => []
  | some (head, rest) =>
    let spaces := (rest.takeWhile (· == ' ')).length
    if !looksLikeHead head || isBlankText rest || spaces == 1 then [] else [wrongSpacing spaces]

/-- The finding that a message holds no visible text. -/
def emptyMessage (rule : Rule) : Finding where
  rule := rule
  code := .emptyMessage
  message := "Commit message is empty"

/-- The finding that a subject is not conventional. -/
def notConventional (subject : String) : Finding where
  rule := .conventionalCommit
  code := .invalidConventionalFormat
  message := "Subject does not follow the Conventional Commits format"
  context := .ofList [("actual", subject), ("expected", "type(scope): description")]

/-- What a conventional subject says. -/
def subjectDetails (s : Subject) : Fields :=
  .ofList
    [("type", .ofList s.type), ("scopes", commaList "," (s.scopes.map String.ofList)),
      ("breaking", toString s.breaking), ("description", .ofList s.description)]

/-- The outcome for a subject, given what is wrong with its blanks. -/
def subjectOutcome (settings : Settings.Conventional) (subject : String) (spacing : List Finding) :
    Outcome :=
  match Subject.parse? subject.toList with
  | some s =>
    { rule := .conventionalCommit
      details := subjectDetails s
      findings :=
        typeFindings settings s ++ scopeFindings settings s ++ breakingFindings settings s ++
          descriptionFindings settings s ++ spacing }
  | none =>
    { rule := .conventionalCommit
      findings := notConventional subject :: spacing }

/-- The subject is conventional, and its parts are allowed. -/
def conventional (settings : Settings.Conventional) (c : Commit) : Outcome :=
  if c.isEmpty then .failure (emptyMessage .conventionalCommit)
  else subjectOutcome settings c.subject (spacingFindings c.subject.toList)

end CommitLint.Check
