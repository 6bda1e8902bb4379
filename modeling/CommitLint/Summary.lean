import CommitLint.Engine

/-!
# Summing up a run

How many commits passed and failed, and how many findings each rule has.
-/

namespace CommitLint

/-- The results of a run, counted. -/
structure Summary where
  results : List Result
  total : Nat
  passed : Nat
  failed : Nat
  /-- The rules with findings, in the order of their names, and the number of findings of each. -/
  ruleFailures : List (Rule × Nat)
  deriving DecidableEq, Repr, Inhabited

namespace Summary

/-- Each rule with its number of findings, without the rules that have none. -/
def countByRule (findings : List Finding) : List (Rule × Nat) :=
  (Rule.all.map fun rule => (rule, findings.countP (·.rule == rule))).filter (·.2 != 0)

/-- The summary of some results. A finding counts for the rule that it names. -/
def ofResults (results : List Result) : Summary where
  results := results
  total := results.length
  passed := results.countP Result.passed
  failed := results.length - results.countP Result.passed
  ruleFailures := countByRule (results.flatMap Result.findings)

/-- Whether no commit failed. -/
def allPassed (s : Summary) : Bool := s.failed == 0

/-- The number of findings of all rules. -/
def findingCount (s : Summary) : Nat := s.ruleFailures.foldl (fun n entry => n + entry.2) 0

/-- The summary in one line. -/
def text (s : Summary) : String :=
  if s.allPassed then s!"{s.passed} of {s.total} commits passed"
  else s!"{s.failed} of {s.total} commits failed ({s.findingCount} errors)"

end Summary

end CommitLint
