import CommitLint.Date
import CommitLint.Json.Basic
import CommitLint.Summary

/-!
# The report as a document

The whole run as a JSON value: the counts, and for each commit what is known of it and every
finding.
-/

namespace CommitLint.Report

open Json

/-- A text, or null if it is empty. -/
def textOrNull (s : String) : Value := if s.isEmpty then .null else .text s

/-- Named texts as an object. -/
def fieldsValue (fields : Fields) : Value :=
  .object (fields.entries.map fun (name, value) => (name, .text value))

/-- A finding as an object. -/
def findingValue (f : Finding) : Value :=
  .object
    [("rule", .text f.rule.name), ("code", .text f.code.name), ("message", .text f.message),
      ("help", .text f.help), ("context", fieldsValue f.context)]

/-- The details of the last outcome of a rule that has any. -/
def lastDetails? (outcomes : List Outcome) (rule : Rule) : Option Fields :=
  ((outcomes.filter fun o => o.rule == rule && !o.details.isEmpty).getLast?).map Outcome.details

/-- The details of all rules that have any, in the order of the rule names. -/
def detailsValue (outcomes : List Outcome) : Value :=
  .object <| Rule.all.filterMap fun rule =>
    (lastDetails? outcomes rule).map fun details => (rule.name, fieldsValue details)

/-- The result of a commit as an object. A verbose report has the details too. -/
def resultValue (verbose : Bool) (r : Result) : Value :=
  .object <|
    [("commit", textOrNull r.commit.hash), ("subject", .text r.commit.subject),
      ("author", textOrNull r.commit.author),
      ("date", (r.commit.date.map fun d => Value.text (Date.rfc3339 d)).getD .null),
      ("valid", .bool r.passed), ("errors", .array (r.findings.map findingValue))] ++
    if verbose then [("details", detailsValue r.outcomes)] else []

/-- A run as an object. -/
def summaryValue (verbose : Bool) (s : Summary) : Value :=
  .object
    [("valid", .bool s.allPassed), ("total", .number s.total), ("passed", .number s.passed),
      ("failed", .number s.failed),
      ("rule_failures",
        .object (s.ruleFailures.map fun (rule, count) => (rule.name, .number count))),
      ("results", .array (s.results.map (resultValue verbose)))]

/-- The report as a document. -/
def documentText (verbose : Bool) (s : Summary) : String := Json.document (summaryValue verbose s)

end CommitLint.Report
