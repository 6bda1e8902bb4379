import CommitLint.Check.Conventional
import CommitLint.Trailer

/-!
# Bodies and sign-offs

A body is set off by a blank line, says something where it must, and ends with trailers. A sign-off
is a trailer of its own rule.
-/

namespace CommitLint.Check

open Text

/-- Whether a line holds nothing but blanks. -/
def isBlankLine (line : List Char) : Bool := isBlankText line

/-- Whether every line with visible text looks like a sign-off. -/
def holdsOnlySignOffs (body : List Char) : Bool :=
  ((lines body).filter (!isBlankLine ·)).all fun line => Trailer.isSignOffAttempt (trim line)

/-- What a body lacks that is required. At most one thing is reported. -/
def requiredFindings (settings : Settings.Body) (body : List Char) : List Finding :=
  let text := trim body
  if text.isEmpty then
    [{ rule := .commitBody
       code := .missingBody
       message := "Commit body is required but missing" }]
  else if holdsOnlySignOffs text && !settings.allowSignoffOnly then
    [{ rule := .commitBody
       code := .signoffOnlyBody
       message := "Commit body contains only sign-off lines" }]
  else if text.length < settings.minLength then
    [{ rule := .commitBody
       code := .bodyTooShort
       message :=
        s!"Commit body is too short: {text.length} characters (min: {settings.minLength})"
       context :=
        .ofList
          [("actual_length", toString text.length), ("min_length", toString settings.minLength)] }]
  else []

/-- Whether a line, blanks around it aside, may not stand after a sign-off. -/
def isOutOfPlace (line : List Char) : Bool :=
  !line.isEmpty && !Trailer.isPermitted line && !Trailer.isSignOffAttempt line

/-- The first line after a well-formed sign-off that may not stand there. -/
def contentAfterSignOff? (body : List Char) : Option (List Char) :=
  ((((lines body).map trim).dropWhile (!Trailer.isSignOff ·))).find? isOutOfPlace

/-- What stands after a sign-off and should not. Malformed sign-offs belong to their own rule. -/
def afterSignOffFindings (body : List Char) : List Finding :=
  match contentAfterSignOff? body with
  | none => []
  | some line =>
    [{ rule := .commitBody
       code := .contentAfterSignoff
       message := "Only trailers may follow the Signed-off-by line"
       context := .ofList [("actual", .ofList line)] }]

/-- What is wrong with the line after the subject. -/
def blankLineFindings (message : List Char) : List Finding :=
  match (lines message)[1]? with
  | none => []
  | some second =>
    if isBlankLine second then []
    else
      [{ rule := .commitBody
         code := .missingBlankLine
         message := "Subject and body must be separated by a blank line" }]

/-- The body is set off by a blank line and well formed. -/
def body (settings : Settings.Body) (c : Commit) : Outcome :=
  if c.isEmpty then .failure (emptyMessage .commitBody)
  else
    let body := c.body.toList
    { rule := .commitBody
      details := .ofList [("body_length", toString (trim body).length)]
      findings :=
        blankLineFindings c.message.toList ++
          (if settings.required then requiredFindings settings body else []) ++
          afterSignOffFindings body }

/-- The number of well-formed sign-offs in a body. -/
def countSignOffs (body : List Char) : Nat := (lines body).countP Trailer.isSignOff

/-- What is wrong with the sign-offs of a body. -/
def signOffFindings (settings : Settings.SignOff) (body : List Char) : List Finding :=
  let count := countSignOffs body
  if count = 0 then
    if (lines body).any Trailer.isSignOffAttempt then
      [{ rule := .signOff
         code := .invalidSignoffFormat
         message := "Sign-off line is malformed"
         context := .ofList [("expected", "Signed-off-by: Name <email@example.com>")] }]
    else
      [{ rule := .signOff
         code := .missingSignoff
         message := "Missing sign-off" }]
  else if 1 < count && !settings.allowMultiple then
    [{ rule := .signOff
       code := .multipleSignoffs
       message := s!"Found {count} sign-off lines, only one is allowed"
       context := .ofList [("signoff_count", toString count)] }]
  else []

/-- The body has a sign-off, and not more of them than the settings allow. -/
def signOff (settings : Settings.SignOff) (c : Commit) : Outcome :=
  { rule := .signOff
    details := .ofList [("signoff_count", toString (countSignOffs c.body.toList))]
    findings := signOffFindings settings c.body.toList }

end CommitLint.Check
