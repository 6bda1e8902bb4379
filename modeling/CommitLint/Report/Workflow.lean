import CommitLint.Report.Terminal
import CommitLint.Text.Piece

/-!
# The report as workflow commands

One workflow command for each finding, which shows it beside the change, and the summary on the last
line. Line ends in a message are encoded, so a message cannot end its command.
-/

namespace CommitLint.Report

open Text

/-- The message of a command. The percent signs are replaced first, before there are others. -/
def encodeMessage (s : String) : String :=
  .ofList <| replaceChar '\n' "%0A".toList <| replaceChar '\r' "%0D".toList <|
    replaceChar '%' "%25".toList s.toList

/-- A property of a command. -/
def encodeProperty (s : String) : String :=
  .ofList <| replaceChar ',' "%2C".toList <| replaceChar ':' "%3A".toList (encodeMessage s).toList

/-- What a command says about a finding in a commit of a given label and subject. -/
def commandMessage (label subject : String) (f : Finding) : String :=
  s!"{label} {subject}: {f.message} ({f.code.name})"

/-- The command for a finding. -/
def command (label subject : String) (f : Finding) : String :=
  "::error title=" ++ encodeProperty s!"cklint {f.rule.name}" ++ "::" ++
    encodeMessage (commandMessage label subject f) ++ "\n"

/-- The commands for the findings in a commit. -/
def commands? (r : Result) : Option String := do
  let label ← label? r.commit
  some (String.join (r.findings.map (command label r.commit.subject)))

/-- The report as workflow commands, if every commit has a label. -/
def workflowText? (s : Summary) : Option String := do
  let parts ← s.results.mapM commands?
  some (String.join parts ++ s.text ++ "\n")

end CommitLint.Report
