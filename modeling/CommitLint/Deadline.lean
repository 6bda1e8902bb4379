import CommitLint.Settings.Basic

/-!
# Deadlines

The time that collaborators may take is limited. A deadline is a reading of a clock that counts
seconds in 64 bits with a sign, so a limit can be too long to be added to the present.
-/

namespace CommitLint

/-- When work is cancelled: never by itself, or once the clock reaches a reading. -/
inductive Deadline where
  | never
  | atSecond (second : Nat)
  deriving DecidableEq, Repr

/-- The last reading of the clock. -/
def lastSecond : Nat := 0x7FFFFFFFFFFFFFFF

/-- The deadline of a run that starts now, unless the clock cannot show it. -/
def Settings.Repository.deadline? (settings : Settings.Repository) (now : Nat) :
    Option Deadline :=
  if settings.timeoutSecs = 0 then some .never
  else if now + settings.timeoutSecs ≤ lastSecond then some (.atSecond (now + settings.timeoutSecs))
  else none

/-- Whether a deadline has passed. -/
def Deadline.hasPassed (d : Deadline) (now : Nat) : Bool :=
  match d with
  | .never => false
  | .atSecond second => second ≤ now

/-- When a run looks at the clock: as it starts, and for each question to somebody else, which is
known by the number of earlier ones. Before a count the clock is looked at, and once more when both
ends of the count have been found; before a verification it is looked at too. A rule looks at the
clock just before it asks, with the same consequence as whom it asks, so one look stands for
both. -/
inductive Moment where
  | start
  | counting (asked : Nat)
  | walking (asked : Nat)
  | verifying (asked : Nat)
  deriving DecidableEq, Repr

end CommitLint
