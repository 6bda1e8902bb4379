import CommitLint.Check.Divergence
import CommitLint.Proofs.Fields

/-!
# What follows from a count

The rule on commits ahead is given a count, or the reason why there is none, and says something
else about each (`FollowsCount`). A distance of some commits is reported and compared with the
largest that is allowed (`TellsDistance`). No reference branch is no distance, and everything else
is a finding. That the outcome of the rule follows from the reply is `followsCount`.
-/

namespace CommitLint.Check

/-- The finding about a branch that is too far ahead. -/
structure IsTooFar (settings : Settings.Repository) (ahead : Nat) (f : Finding) : Prop where
  rule : f.rule = .commitsAhead
  code : f.code = .tooManyCommits
  actual : f.context.get? "actual" = some (toString ahead)
  expected : f.context.get? "expected" = some (toString settings.maxCommitsAhead)
  reference : f.context.get? "reference" = some settings.referenceBranch

/-- An outcome gives a distance in commits, and finds something exactly if it is too long. -/
structure TellsDistance (settings : Settings.Repository) (ahead : Nat) (o : Outcome) : Prop where
  rule : o.rule = .commitsAhead
  count : o.details.get? "ahead_count" = some (toString ahead)
  reference : o.details.get? "reference" = some settings.referenceBranch
  near : ahead ≤ settings.maxCommitsAhead → o.findings = []
  far : settings.maxCommitsAhead < ahead → ∃ f, o.findings = [f] ∧ IsTooFar settings ahead f

/-- What the rule on commits ahead says, by what a repository replies. -/
inductive FollowsCount (settings : Settings.Repository) : AheadReply → Outcome → Prop
  | counted {ahead : Nat} {o : Outcome} : TellsDistance settings ahead o →
      FollowsCount settings (.ok ahead) o
  | noReference {reference : String} {o : Outcome} : TellsDistance settings 0 o →
      FollowsCount settings (.error (.referenceNotFound reference)) o
  | cancelled {o : Outcome} {f : Finding} : o.findings = [f] → f.code = .cancelled →
      FollowsCount settings (.error .cancelled) o
  | failed {reason : String} {o : Outcome} {f : Finding} : o.findings = [f] →
      f.code = .repositoryFailure →
      f.message = s!"Failed to count commits ahead of '{settings.referenceBranch}': {reason}" →
      f.context.get? "reference" = some settings.referenceBranch →
      FollowsCount settings (.error (.other reason)) o

theorem tellsDistance (settings : Settings.Repository) (ahead : Nat) :
    TellsDistance settings ahead (aheadOutcome settings ahead) where
  rule := rfl
  count := by
    rw [aheadOutcome, Fields.get?_ofList]
    rfl
  reference := by
    rw [aheadOutcome, Fields.get?_ofList]
    rfl
  near h := by
    rw [aheadOutcome]
    exact if_pos h
  far h := by
    rw [aheadOutcome]
    refine ⟨_, if_neg (Nat.not_le_of_lt h), rfl, rfl, ?_, ?_, ?_⟩ <;>
      rw [Fields.get?_ofList] <;> rfl

/-- The outcome follows from the reply. -/
theorem followsCount (settings : Settings.Repository) (reply : AheadReply) :
    FollowsCount settings reply (aheadReplyOutcome settings reply) := by
  rcases reply with (reference | _ | reason) | ahead
  · exact .noReference (tellsDistance settings 0)
  · exact .cancelled rfl rfl
  · refine .failed rfl rfl rfl ?_
    rw [Fields.get?_ofList]
    rfl
  · exact .counted (tellsDistance settings ahead)

end CommitLint.Check
