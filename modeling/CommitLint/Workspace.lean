import CommitLint.CommandLine.Basic
import CommitLint.Deadline
import CommitLint.Engine.Slicing
import CommitLint.Hook
import CommitLint.Report.Basic
import CommitLint.Repository.Basic
import CommitLint.Settings.Locate
import CommitLint.Settings.Sample
import CommitLint.Verification

/-!
# Running commands

A workspace is all that a command depends on: files, a repository, what running git on a commit
comes to, and what the clock reads. Running a command gives a transcript: what is printed, the files
afterwards, and whether it succeeded. There is no transcript where a deadline lies beyond the clock,
or a commit has no label.

A validation has one shape for every source of commits: they are loaded, cut to a number, freed of
merges, checked, and reported; and it fails exactly if something was found. While it goes on the
deadline may pass. Then the repository and the verifier answer no more.
-/

namespace CommitLint

open Text

/-- All that a command depends on. -/
structure Workspace where
  files : FileTree
  /-- The directory that commands run in. -/
  here : Path
  /-- The file with the settings of the user. -/
  userFile : Path
  /-- How the root of the files is written. -/
  rootText : String := ""
  repository : Option Repository := none
  /-- How running git on the commit of a hash ends. -/
  git : String → Verification.GitRun := fun _ => .notFound
  /-- What the decoder of armored data says about a block that it cannot read. -/
  explain : String → String := fun _ => ""
  /-- Whether a log is asked for from outside. -/
  logs : Bool := false
  /-- What the clock reads. -/
  clock : Moment → Nat

/-- What comes of running a command. -/
structure Transcript where
  output : String := ""
  files : FileTree
  result : Except Failure Unit := .ok ()

namespace Workspace

/-- The transcript of a command that prints a text and changes no file. -/
def prints (w : Workspace) (output : String) : Transcript where
  output := output
  files := w.files

/-- The transcript of a command that fails before it does anything. -/
def fails (w : Workspace) (failure : Failure) : Transcript where
  files := w.files
  result := .error failure

/-- The settings that a command line asks for. -/
def settings (w : Workspace) (line : CommandLine) : Except Failure Settings :=
  match line.config with
  | some path => Settings.loadFrom w.files w.here path
  | none => Settings.load w.files w.userFile w.here

/-- The repository that the directory belongs to. -/
def openRepository (w : Workspace) : Except Failure Repository :=
  Repository.discover w.repository w.here

/-! ### Validation -/

/-- Settings with more rules enabled and disabled. -/
def withRules (s : Settings) (o : ValidateOptions) : Settings :=
  { s with
    rules :=
      { enabled := s.rules.enabled ++ o.enable
        disabled := s.rules.disabled ++ o.disable } }

/-- Some commits and the engine that is to validate them until a deadline. -/
structure Job where
  commits : List Commit
  engine : Deadline → Engine

/-- Whether a deadline has passed when the clock is looked at. -/
def isLate (w : Workspace) (d : Deadline) (m : Moment) : Bool := d.hasPassed (w.clock m)

/-- Count for a question of some number, until a deadline. -/
def count (w : Workspace) (d : Deadline) (r : Repository) (asked : Nat) (reference : String) :
    AheadReply :=
  r.ahead (w.isLate d (.counting asked)) (w.isLate d (.walking asked)) reference

/-- Verify a commit for a question of some number, until a deadline. -/
def verify (w : Workspace) (d : Deadline) (asked : Nat) (c : Commit) : VerifyReply :=
  Verification.verify (w.isLate d (.verifying asked)) (w.git c.hash) c

/-- The rules that look at signatures. -/
def signatureRules : List Rule := [.signature, .signedIdentity]

/-- The commit in a message file. It has not been made yet, so there is no signature to look at. -/
def messageJob (w : Workspace) (s : Settings) (path : String) : Except Failure Job :=
  match w.files.read w.here path with
  | .error fault =>
    .error (.inContext s!"Failed to read message file {path}" fault.message)
  | .ok text =>
    .ok
      { commits := [.ofMessageFile text]
        engine := fun d =>
          { settings := s
            rules :=
              (Rule.active s.rules.enabled s.rules.disabled).filter (!signatureRules.contains ·)
            team :=
              { ahead :=
                  match w.openRepository with
                  | .ok r => some (w.count d r)
                  | .error _ => none
                explain := w.explain } } }

/-- The commits of a repository that some options select. -/
def select (r : Repository) (o : ValidateOptions) : Except Failure (List Commit) := do
  let commits ←
    match o.target with
    | some (.range range) => r.range range.toList
    | some (.since branch) => r.since branch.toList
    | some (.revision revision) => walkFrom revision.toList
    | _ => walkFrom Revision.head
  return commits.take (o.count.getD commits.length)
where
  /-- The commit of a revision alone, or some commits back from it. -/
  walkFrom (revision : List Char) : Except Failure (List Commit) :=
    match o.count with
    | some count => r.recent revision count
    | none => (r.commit revision).map ([·])

/-- The commits of the repository, with everybody there to ask. -/
def repositoryJob (w : Workspace) (s : Settings) (o : ValidateOptions) : Except Failure Job := do
  let r ← w.openRepository
  return {
    commits := ← select r o
    engine := fun d =>
      .ofSettings s
        { ahead := some (w.count d r)
          verify := some (w.verify d)
          explain := w.explain } }

/-- What is to be validated. -/
def job (w : Workspace) (s : Settings) (o : ValidateOptions) : Except Failure Job :=
  match o.target with
  | some (.messageFile path) => w.messageJob s path
  | _ => w.repositoryJob s o

/-- The commits that are checked: merges only if the options or the settings ask for them. -/
def checkedCommits (s : Settings) (o : ValidateOptions) (commits : List Commit) : List Commit :=
  if s.repository.skipMergeCommits && !o.includeMerges then commits.filter (!·.isMerge) else commits

/-- How the run is reported: as the command line says, and else as the settings say. -/
def outputSettings (s : Settings) (line : CommandLine) (o : ValidateOptions) : Settings.Output where
  format := line.format.getD s.output.format
  verbose := o.verbose || s.output.verbose
  color := !line.noColor && s.output.color

/-- Whether a run succeeded. -/
def verdict (summary : Summary) : Except Failure Unit :=
  if summary.allPassed then .ok () else .error (.commitsFailed summary.failed summary.total)

/-- Validate commits. -/
def validate? (w : Workspace) (s : Settings) (line : CommandLine) (o : ValidateOptions) :
    Option Transcript :=
  let s := withRules s o
  match w.job s o with
  | .error failure => some (w.fails failure)
  | .ok job => do
    let deadline ← s.repository.deadline? (w.clock .start)
    let (results, _, _) ←
      (job.engine deadline).validateAll? (line.debug || w.logs) (checkedCommits s o job.commits) {}
    let summary := Summary.ofResults results
    let text ← Report.render? (outputSettings s line o) summary
    some { w.prints text with result := verdict summary }

/-! ### Listing rules -/

/-- Whether a rule is active under some settings. -/
def isActive (s : Settings) (rule : Rule) : Bool :=
  Rule.isActive rule.name.toList (s.rules.enabled.map String.toList)
    (s.rules.disabled.map String.toList)

/-- The number of columns for the name of a rule. -/
def nameWidth : Nat := 20

/-- A rule in one line. -/
def ruleLine (s : Settings) (rule : Rule) : String :=
  let icon := if isActive s rule then "✓" else "✗"
  let gap := String.ofList (List.replicate (nameWidth - rule.name.length) ' ')
  s!"{icon} {rule.name}{gap} {rule.description}\n"

/-- A rule as an object. -/
def ruleValue (s : Settings) (rule : Rule) : Json.Value :=
  .object
    [("active", .bool (isActive s rule)), ("description", .text rule.description),
      ("name", .text rule.name)]

/-- Every rule and whether it is active. -/
def rulesText (format : ReportFormat) (s : Settings) : String :=
  match format with
  | .json => Json.document (.array (Rule.all.map (ruleValue s))) ++ "\n"
  | _ => String.join (Rule.all.map (ruleLine s))

/-! ### The hook -/

/-- The directory of hooks of a repository. -/
def hookDirectoryPath (r : Repository) : Path := r.gitDirectory ++ ["hooks"]

/-- The name of the backup of a hook. -/
def backupName : String := Hook.name ++ ".backup"

/-- The hooks in a directory of a tree. -/
def readHooks (t : FileTree) (directory : Path) : Hook.Directory :=
  let file (name : String) : Option Hook.File :=
    (t.text? (directory ++ [name])).map fun text => { content := encode text.toList }
  { isDirectory := !t.isFile directory
    hook := file Hook.name
    backup := file backupName }

/-- A tree with the hooks of a directory in it. -/
def writeHooks (t : FileTree) (directory : Path) (d : Hook.Directory) : FileTree :=
  let put (t : FileTree) (name : String) : Option Hook.File → FileTree
    | some file => t.write (directory ++ [name]) (.ofList (decodeLossy file.content))
    | none => t.remove (directory ++ [name])
  put (put t Hook.name d.hook) backupName d.backup

/-- The transcript of a procedure on the hooks in a directory. -/
def perform {α : Type} (w : Workspace) (directory : Path) (p : Hook.Procedure α)
    (output : α → String) : Transcript :=
  let (answer, d) := (readHooks w.files directory).perform p
  { output :=
      match answer with
      | .ok a => output a
      | .error _ => ""
    files := writeHooks w.files directory d
    result := answer.map fun _ => () }

/-- Do something with the hook of the repository. -/
def hooks (w : Workspace) (action : Hook.Action) : Except Failure Transcript := do
  let directory := hookDirectoryPath (← w.openRepository)
  let place := w.rootText ++ "/" ++ "/".intercalate (directory ++ [Hook.name])
  return match action with
    | .install force =>
      w.perform directory (Hook.install force) fun _ =>
        s!"✓ Installed {Hook.name} hook at {place}\n"
    | .uninstall =>
      w.perform directory Hook.uninstall fun removed =>
        if removed then s!"✓ Uninstalled {Hook.name} hook\n"
        else s!"No cklint {Hook.name} hook installed\n"
    | .status =>
      w.perform directory Hook.status fun status => s!"{Hook.name}: {status.description}\n"

/-! ### A first file of settings -/

/-- The name of the file that is written for a new project. -/
def sampleName : String := "cklint.toml"

/-- Write a sample of settings. A file that is there is left alone unless this is forced. -/
def init (w : Workspace) (force : Bool) : Transcript :=
  if !force && w.files.has w.here sampleName then w.fails (.settingsExist sampleName)
  else
    let path := w.here ++ [sampleName]
    if w.files.isDirectory path then
      w.fails (.inContext "Failed to write configuration" ReadFault.isADirectory.message)
    else
      { output := s!"✓ Created {sampleName}\n"
        files := w.files.write path Settings.sample }

/-! ### Dispatch -/

/-- The version of the program. -/
def versionText : String := "cklint 1.0.0\n"

/-- Run a command line. Whatever the command, the settings have to be in order. -/
def run? (w : Workspace) (line : CommandLine) : Option Transcript :=
  match w.settings line with
  | .error failure => some (w.fails failure)
  | .ok s =>
    match line.effectiveCommand with
    | .validate o => w.validate? s line o
    | .rules => some (w.prints (rulesText (line.format.getD s.output.format) s))
    | .hooks action =>
      some <|
        match w.hooks action with
        | .ok transcript => transcript
        | .error failure => w.fails failure
    | .init force => some (w.init force)
    | .version => some (w.prints versionText)

end Workspace

end CommitLint
