import CommitLint.Summary

/-!
# The report for readers

One line for each commit, with its findings and their advice below it, and the counts at the end.
Color is a matter of escape sequences around pieces of the text.
-/

namespace CommitLint.Report

/-- How a commit is referred to: by its short hash, or as a message that has none. There is no label
if the hash cannot be cut where a short hash ends. -/
def label? (c : Commit) : Option String :=
  if c.hash.isEmpty then some "<message>" else c.shortHash?

/-- The styles of a piece of text. -/
inductive Style where
  | red
  | green
  | yellow
  | cyan
  | bold
  | dim
  deriving DecidableEq, Repr

/-- The number that turns a style on. -/
def Style.number : Style → String
  | .red => "31"
  | .green => "32"
  | .yellow => "33"
  | .cyan => "36"
  | .bold => "1"
  | .dim => "2"

/-- The escape sequence of a number. -/
def escape (number : String) : String := s!"\x1b[{number}m"

/-- A text in some styles, if the report has color. -/
def styled (color : Bool) (styles : List Style) (text : String) : String :=
  if color then String.join (styles.map (escape ·.number)) ++ text ++ escape "0" else text

/-- The lines about one finding. -/
def findingText (color : Bool) (f : Finding) : String :=
  "  " ++ styled color [.red] "✗" ++ " " ++ styled color [.bold] f.rule.name ++
    s!": {f.message} " ++ styled color [.dim] s!"[{f.code.name}]" ++ "\n" ++
    if f.help.isEmpty then ""
    else "    " ++ styled color [.yellow] "help:" ++ s!" {f.help}\n"

/-- The details of an outcome in parentheses, after a space, if there are any. -/
def detailsText (color : Bool) (details : Fields) : String :=
  if details.isEmpty then ""
  else
    let parts := details.entries.map fun (name, value) => s!"{name}={value}"
    " " ++ styled color [.dim] ("(" ++ ", ".intercalate parts ++ ")")

/-- What a verbose report adds about an outcome: that it passed, and its details. -/
def outcomeText (color : Bool) (o : Outcome) : String :=
  if o.passed then
    "  " ++ styled color [.green] "✓" ++ " " ++ o.rule.name ++ detailsText color o.details ++ "\n"
  else if o.details.isEmpty then ""
  else "    " ++ styled color [.dim] o.rule.name ++ detailsText color o.details ++ "\n"

/-- The mark of a commit that passed, or of one that failed. -/
def markText (color passed : Bool) : String :=
  if passed then styled color [.green, .bold] "✓" else styled color [.red, .bold] "✗"

/-- The first line about a commit. -/
def headText (color : Bool) (label : String) (r : Result) : String :=
  markText color r.passed ++ " " ++ styled color [.cyan] label ++ s!" {r.commit.subject}\n"

/-- What a report says about an outcome. -/
def outcomeLines (verbose color : Bool) (o : Outcome) : String :=
  String.join (o.findings.map (findingText color)) ++ if verbose then outcomeText color o else ""

/-- The lines about one commit. -/
def resultText? (verbose color : Bool) (r : Result) : Option String := do
  let label ← label? r.commit
  some (headText color label r ++ String.join (r.outcomes.map (outcomeLines verbose color)))

/-- The counts at the end of a report. They are left out if a single commit passed, or none was
looked at. -/
def countsText (color : Bool) (s : Summary) : String :=
  if 1 < s.total || !s.allPassed then
    "\n" ++ styled color [if s.allPassed then .green else .red, .bold] s.text ++ "\n" ++
      String.join (s.ruleFailures.map fun (rule, count) => s!"  {rule.name}: {count}\n")
  else ""

/-- The report for readers, if every commit has a label. -/
def terminalText? (verbose color : Bool) (s : Summary) : Option String := do
  let parts ← s.results.mapM (resultText? verbose color)
  some (String.join parts ++ countsText color s)

end CommitLint.Report
