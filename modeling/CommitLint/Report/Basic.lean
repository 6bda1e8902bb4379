import CommitLint.Report.Workflow
import CommitLint.Report.Document

/-!
# Reports

A run in the format that the settings ask for.
-/

namespace CommitLint.Report

/-- A run in some format. A document can always be written; the other formats need a label for every
commit. -/
def render? (output : Settings.Output) (s : Summary) : Option String :=
  match output.format with
  | .text => terminalText? output.verbose output.color s
  | .json => some (documentText output.verbose s)
  | .github => workflowText? s

end CommitLint.Report
