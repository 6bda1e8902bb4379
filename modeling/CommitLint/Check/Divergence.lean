import CommitLint.Collaborator
import CommitLint.Finding
import CommitLint.Settings.Basic

/-!
# How far the branch is ahead

The branch is not too many commits ahead of the reference branch. A reference branch that does not
exist is no distance away.
-/

namespace CommitLint.Check

/-- The outcome of a count that was cancelled. -/
def countCancelled : Outcome :=
  .failure
    { rule := .commitsAhead
      code := .cancelled
      message := "Counting commits ahead was cancelled" }

/-- The outcome for a number of commits. -/
def aheadOutcome (settings : Settings.Repository) (ahead : Nat) : Outcome :=
  let reference := settings.referenceBranch
  let max := settings.maxCommitsAhead
  { rule := .commitsAhead
    details := .ofList [("ahead_count", toString ahead), ("reference", reference)]
    findings :=
      if ahead ≤ max then []
      else
        [{ rule := .commitsAhead
           code := .tooManyCommits
           message := s!"HEAD is {ahead} commits ahead of '{reference}' (max: {max})"
           context :=
            .ofList
              [("actual", toString ahead), ("expected", toString max),
                ("reference", reference)] }] }

/-- The outcome that follows from what a repository said. -/
def aheadReplyOutcome (settings : Settings.Repository) : AheadReply → Outcome
  | .ok ahead => aheadOutcome settings ahead
  | .error (.referenceNotFound _) => aheadOutcome settings 0
  | .error .cancelled => countCancelled
  | .error (.other message) =>
    .failure
      { rule := .commitsAhead
        code := .repositoryFailure
        message :=
          s!"Failed to count commits ahead of '{settings.referenceBranch}': {message}"
        context := .ofList [("reference", settings.referenceBranch)] }

/-- The branch is not too far ahead. Without a repository nothing is checked. -/
def commitsAhead (settings : Settings.Repository) (team : Collaborators) (s : Session) :
    Outcome × Session :=
  match team.ahead with
  | none => ({ rule := .commitsAhead, details := .ofList [("status", "skipped")] }, s)
  | some ahead =>
    if s.cancelled then (countCancelled, s)
    else
      let (reply, s) := s.askAhead ahead settings.referenceBranch
      (aheadReplyOutcome settings reply, s)

end CommitLint.Check
