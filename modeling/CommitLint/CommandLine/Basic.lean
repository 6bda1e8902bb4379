import CommitLint.Hook
import CommitLint.Settings.Basic

/-!
# Command lines

What a user can ask for: a command with its own options, and options that every command has.
-/

namespace CommitLint

/-- What is to be validated: one commit or the commits back from it, the commits of a range, those
that are not on a branch, or the message in a file. -/
inductive Target where
  | revision (revision : String)
  | range (range : String)
  | since (branch : String)
  | messageFile (path : String)
  deriving DecidableEq, Repr

/-- The options of a validation. -/
structure ValidateOptions where
  target : Option Target := none
  count : Option Nat := none
  enable : List String := []
  disable : List String := []
  includeMerges : Bool := false
  verbose : Bool := false
  deriving DecidableEq, Repr, Inhabited

/-- A command. -/
inductive Command where
  | validate (options : ValidateOptions)
  | rules
  | hooks (action : Hook.Action)
  | init (force : Bool)
  | version
  deriving DecidableEq, Repr

/-- A command line. -/
structure CommandLine where
  /-- The command, if one was written. -/
  command : Option Command := none
  debug : Bool := false
  format : Option ReportFormat := none
  config : Option String := none
  noColor : Bool := false
  deriving DecidableEq, Repr, Inhabited

/-- The command that is run. Without a command the commit that is checked out is validated. -/
def CommandLine.effectiveCommand (line : CommandLine) : Command :=
  line.command.getD (.validate {})

end CommitLint
