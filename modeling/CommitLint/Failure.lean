/-!
# Failures

What can keep a command from doing its work. Findings about commits are no failures; that there are
any is one.
-/

namespace CommitLint

/-- Why a command did not succeed. -/
inductive Failure where
  | settingsNotFound (path : String)
  | settingsUnreadable
  | settingsInvalid (key problem : String)
  | settingsExist (path : String)
  | notARepository
  | repositoryUnreadable
  | invalidReference (reference : String)
  | gitFailed
  | hookNotWritten (hook : String)
  | hookExists (hook : String)
  | hookNotRemoved (hook problem : String)
  | inputOutput
  | commitsFailed (failed total : Nat)
  | inContext (context problem : String)
  deriving DecidableEq, Repr

/-- The wording of a failure. -/
def Failure.message : Failure → String
  | .settingsNotFound path => s!"Configuration error: Configuration file not found: {path}"
  | .settingsUnreadable => "Configuration error: Failed to parse configuration"
  | .settingsInvalid key problem =>
    s!"Configuration error: Invalid configuration value for '{key}': {problem}"
  | .settingsExist path => s!"Configuration error: Configuration file already exists: {path}"
  | .notARepository => "Git error: Not a git repository"
  | .repositoryUnreadable => "Git error: Failed to open repository"
  | .invalidReference reference => s!"Git error: Invalid commit reference: {reference}"
  | .gitFailed => "Git error: Git command failed"
  | .hookNotWritten hook => s!"Hook error: Failed to install hook '{hook}'"
  | .hookExists hook => s!"Hook error: Hook already exists: {hook}"
  | .hookNotRemoved hook problem => s!"Hook error: Failed to remove hook '{hook}': {problem}"
  | .inputOutput => "IO error"
  | .commitsFailed failed total =>
    s!"Validation failed: {failed} of {total} commits have errors"
  | .inContext context problem => s!"{context}: {problem}"

end CommitLint
