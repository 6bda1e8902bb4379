import CommitLint.Failure
import CommitLint.Text.Find
import CommitLint.Text.Line
import CommitLint.Text.Utf8

/-!
# The commit-message hook

A repository has one file that checks the message of a new commit. It is installed and removed here.
A file of somebody else is moved out of the way only on request, and is moved back afterwards.
-/

namespace CommitLint.Hook

open Text

/-- The name of the hook file. -/
def name : String := "commit-msg"

/-- What marks a script as one of ours: the beginning of one of its lines. -/
def marker : List Char := "# Generated by cklint".toList

/-- The script that is installed. -/
def script : String :=
  "#!/bin/sh\n" ++
  "# Generated by cklint v1.0.0\n" ++
  "# Validates the commit message with cklint. Remove with 'cklint hooks uninstall'.\n" ++
  "\n" ++
  "if ! command -v cklint >/dev/null 2>&1; then\n" ++
  "    echo \"cklint: not found in PATH, skipping commit message validation\" >&2\n" ++
  "    exit 0\n" ++
  "fi\n" ++
  "\n" ++
  "exec cklint validate --message-file \"$1\"\n"

/-- A file: its bytes, and who may do what with it, as three octal digits. -/
structure File where
  content : List UInt8
  mode : Nat := 0o644
  deriving DecidableEq, Repr, Inhabited

/-- Whether everybody may execute a file. -/
def File.executable (f : File) : Bool := f.mode &&& 0o111 == 0o111

/-- The directory of hooks, as far as it matters here. Where a file has the name of the directory,
there is no directory and nothing can be put into it. -/
structure Directory where
  isDirectory : Bool := true
  hook : Option File := none
  backup : Option File := none
  deriving DecidableEq, Repr, Inhabited

/-- What is in the place of the hook. -/
inductive Status where
  | installed
  | foreign
  | missing
  deriving DecidableEq, Repr

/-- A status in words. -/
def Status.description : Status → String
  | .installed => "installed"
  | .foreign => "foreign hook present"
  | .missing => "not installed"

/-- Whether a script is one of ours. -/
def isGenerated (script : List Char) : Bool := (lines script).any (startsWith marker ·)

/-- The bytes of the script that is installed. -/
def scriptContent : List UInt8 := encode script.toList

/-- A file after its bytes were written. One that was there keeps its mode. -/
def rewritten (content : List UInt8) (old : Option File) : File :=
  { old.getD { content := content } with content := content }

namespace Directory

/-- What is in the place of the hook. A file that is no text cannot be told. -/
def status (d : Directory) : Except Failure Status :=
  match d.hook with
  | none => .ok .missing
  | some file =>
    match decode? file.content with
    | none => .error .inputOutput
    | some text => .ok (if isGenerated text then .installed else .foreign)

/-- The directory after somebody else wrote the hook file, if anything can be put into it. -/
def write (d : Directory) (content : List UInt8) : Directory :=
  if d.isDirectory then { d with hook := some (rewritten content d.hook) } else d

/-- The directory after somebody else wrote the backup, if anything can be put into it. -/
def writeBackup (d : Directory) (content : List UInt8) : Directory :=
  if d.isDirectory then { d with backup := some (rewritten content d.backup) } else d

/-- The directory after somebody else removed the hook file. -/
def delete (d : Directory) : Directory := { d with hook := none }

end Directory

/-! ### Procedures

The hook is installed and removed by one file operation after the other. -/

/-- What is done to a directory. Where an operation fails, those before it stay done. -/
abbrev Procedure := ExceptT Failure (StateM Directory)

/-- The answer of a procedure, and the directory that it leaves. -/
def Directory.perform {α : Type} (d : Directory) (p : Procedure α) : Except Failure α × Directory :=
  (p.run.run d).run

/-- An operation on the files of a directory, which fails where there is no directory. -/
def operation (failure : Failure) (f : Directory → Directory) : Procedure Unit := do
  if (← get).isDirectory then modify f else throw failure

/-- What is in the place of the hook. -/
def status : Procedure Status := do MonadExcept.ofExcept (← get).status

/-- Move the hook to the backup, over an older one. -/
def backUp : Procedure Unit :=
  operation (.hookNotWritten name) fun d => { d with hook := none, backup := d.hook }

/-- Write the script to the place of the hook. -/
def writeScript : Procedure Unit :=
  operation (.hookNotWritten name) fun d =>
    { d with hook := some (rewritten scriptContent d.hook) }

/-- Let everybody execute the hook. -/
def makeExecutable : Procedure Unit :=
  operation (.hookNotWritten name) fun d => { d with hook := d.hook.map ({ · with mode := 0o755 }) }

/-- Remove the hook. -/
def remove : Procedure Unit :=
  operation (.hookNotRemoved name "Failed to remove hook") fun d => { d with hook := none }

/-- Move the backup to the place of the hook, if there is one. -/
def restore : Procedure Unit := do
  if (← get).backup.isSome then
    operation .inputOutput fun d => { d with hook := d.backup, backup := none }

/-- Install the hook. Whoever forces this has a foreign hook backed up. -/
def install (force : Bool) : Procedure Unit := do
  if (← status) = .foreign then
    if force then backUp else throw (.hookExists name)
  writeScript
  makeExecutable

/-- Remove the hook, which gives way to a backup if there is one. The answer is whether there was a
hook; a foreign one is not removed. -/
def uninstall : Procedure Bool := do
  match ← status with
  | .missing => return false
  | .foreign => throw (.hookNotRemoved name "Hook was not installed by cklint")
  | .installed =>
    remove
    restore
    return true

/-- What can be asked for. -/
inductive Action where
  | install (force : Bool)
  | uninstall
  | status
  deriving DecidableEq, Repr

/-! ### Runs -/

/-- The directory after an action, whether it succeeded or not. -/
def Directory.after (d : Directory) : Action → Directory
  | .install force => (d.perform (install force)).2
  | .uninstall => (d.perform uninstall).2
  | .status => (d.perform Hook.status).2

/-- What can happen to the directory: an action, or that somebody else writes or removes the hook
file. -/
inductive Event where
  | action (action : Action)
  | write (content : List UInt8)
  | delete
  deriving DecidableEq, Repr

/-- The directory after an event. -/
def Directory.next (d : Directory) : Event → Directory
  | .action action => d.after action
  | .write content => d.write content
  | .delete => d.delete

/-- The directory after some events, one after the other. -/
def Directory.run (d : Directory) (events : List Event) : Directory := events.foldl Directory.next d

end CommitLint.Hook
