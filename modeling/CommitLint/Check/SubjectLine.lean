import CommitLint.Commit
import CommitLint.Finding
import CommitLint.Settings.Basic
import CommitLint.Subject

/-!
# Length, case and ending of a subject
-/

namespace CommitLint.Check

open Text

/-- The subject has at most as many characters as the settings allow. -/
def subjectLength (settings : Settings.SubjectLine) (c : Commit) : Outcome :=
  let length := c.subject.toList.length
  let max := settings.maxLength
  { rule := .subjectLength
    details := .ofList [("length", toString length), ("max_length", toString max)]
    findings :=
      if length ≤ max then []
      else
        [{ rule := .subjectLength
           code := .subjectTooLong
           message := s!"Subject is too long: {length} characters (max: {max})"
           help :=
            s!"Shorten the subject to {max} characters or less; move details into the body"
           context :=
            .ofList [("actual_length", toString length), ("max_length", toString max)] }] }

/-- The finding that a subject has no visible text. -/
def emptySubject (rule : Rule) : Finding where
  rule := rule
  code := .emptySubject
  message := "Subject is empty"

/-- The name of the case that is expected of a first letter. -/
def expectedCase : LetterCase → String
  | .lower => "lowercase"
  | .upper => "uppercase"
  | .ignore => "any"

/-- Whether a first letter has the case opposite to the expected one. -/
def hasWrongCase : LetterCase → Char → Bool
  | .lower, c => isUppercase c
  | .upper, c => isLowercase c
  | .ignore, _ => false

/-- The first letter of what the subject states has the expected case. -/
def subjectCase (settings : Settings.SubjectLine) (c : Commit) : Outcome :=
  let subject := c.subject.toList
  if isBlankText subject then .failure (emptySubject .subjectCase)
  else
    match Subject.statement subject with
    | [] => { rule := .subjectCase }
    | first :: _ =>
      let expected := expectedCase settings.letterCase
      { rule := .subjectCase
        details := .ofList [("expected_case", expected)]
        findings :=
          if hasWrongCase settings.letterCase first then
            [{ rule := .subjectCase
               code := .invalidCase
               message := s!"Subject should start with a {expected} letter, found '{first}'"
               help := s!"Start the subject with a {expected} letter"
               context := .ofList [("actual", toString first), ("expected", expected)] }]
          else [] }

/-- The subject ends neither in a byte sequence that was no text nor in a disallowed character. -/
def subjectSuffix (settings : Settings.SubjectLine) (c : Commit) : Outcome :=
  match (trimEnd c.subject.toList).getLast? with
  | none => .failure (emptySubject .subjectSuffix)
  | some last =>
    if last = replacement then
      .failure
        { rule := .subjectSuffix
          code := .invalidUtf8
          message := "Subject ends with an invalid UTF-8 sequence" }
    else if settings.disallowedSuffixes.toList.contains last then
      .failure
        { rule := .subjectSuffix
          code := .invalidSuffix
          message := s!"Subject should not end with '{last}'"
          help := s!"Remove the trailing '{last}'"
          context :=
            .ofList
              [("actual", toString last),
                ("expected", s!"none of \"{settings.disallowedSuffixes}\"")] }
    else { rule := .subjectSuffix }

end CommitLint.Check
