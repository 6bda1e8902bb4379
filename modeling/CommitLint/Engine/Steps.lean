import CommitLint.Engine

/-!
# An engine over time

An engine may be in use for a while: commits and plain messages are validated as they come, and at
any time work may be cancelled, for good.
-/

namespace CommitLint

/-- What can be asked of an engine. -/
inductive Step where
  | message (text : String)
  | commit (c : Commit)
  | cancel
  deriving DecidableEq, Repr

/-- The commit that a step validates, which for a plain message is an unsaved one. -/
def Step.commit? : Step → Option Commit
  | .message text => some { message := text }
  | .commit c => some c
  | .cancel => none

namespace Engine

/-- One step, and the result if a commit was validated. -/
def step (e : Engine) (step : Step) (s : Session) : Option Result × Session :=
  match step.commit? with
  | none => (none, { s with cancelled := true })
  | some c =>
    let (result, s) := e.validate c s
    (some result, s)

/-- Some steps, one after the other. -/
def run (e : Engine) : List Step → Session → List (Option Result) × Session
  | [], s => ([], s)
  | step :: steps, s =>
    let (result, s) := e.step step s
    let (results, s) := e.run steps s
    (result :: results, s)

end Engine

end CommitLint
