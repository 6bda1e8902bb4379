import CommitLint.CommandLine.Reader
import CommitLint.Workspace

/-!
# The program

The files that a command may depend on are read, the command is run on them, and what it printed
and changed is written out. The commits of a repository are not read, so of a repository only its
hook can be worked on; messages are validated from files.
-/

namespace CommitLint.Program

/-- The names in a written path. -/
def namesOf (written : String) : Path :=
  ((Text.pieces '/' written.toList).filter (!·.isEmpty)).map .ofList

/-- The path that a written one leads to from a directory. -/
def pathFrom (here : Path) (written : String) : Path :=
  (namesOf written).foldl
    (fun p name => if name = "." then p else if name = ".." then p.dropLast else p ++ [name])
    (if written.startsWith "/" then [] else here)

/-- A path as it is written. -/
def textOf (p : Path) : String := "/" ++ "/".intercalate p

/-- The directory of a path, given from the last name to the first, and those above it. -/
def ancestors : List String → List Path
  | [] => [[]]
  | name :: above => (name :: above).reverse :: ancestors above

/-- Whether there is a directory at a path. -/
def isDirectory (p : Path) : IO Bool := do return ← ((← IO.currentDir) / textOf p).isDir

/-- A tree with what the file system has at a path. -/
def fetch (t : FileTree) (p : Path) : IO FileTree := do
  if ← isDirectory p then return { t with directories := p :: t.directories }
  try return t.write p (← IO.FS.readFile (textOf p))
  catch _ => return t

/-- The paths that a command line names. -/
def namedPaths (here : Path) (line : CommandLine) : List Path :=
  let message :=
    match line.effectiveCommand with
    | .validate o =>
      match o.target with
      | some (.messageFile path) => some path
      | _ => none
    | _ => none
  (line.config.toList ++ message.toList).map (pathFrom here)

/-- The files of the hook of a repository. -/
def hookPaths (r : Repository) : List Path :=
  [Hook.name, Workspace.backupName].map fun name => Workspace.hookDirectoryPath r ++ [name]

/-- The nearest repository, where a command works on one. -/
def findRepository (here : Path) (line : CommandLine) : IO (Option Repository) := do
  let isHooks :=
    match line.effectiveCommand with
    | .hooks _ => true
    | _ => false
  if !isHooks then return none
  for directory in ancestors here.reverse do
    if ← isDirectory (directory ++ [".git"]) then return some { place := directory }
  return none

/-- The file with the settings of the user. -/
def userFile : IO Path := do
  let home := (← IO.getEnv "HOME").getD ""
  let base := (← IO.getEnv "XDG_CONFIG_HOME").getD (home ++ "/.config")
  return pathFrom [] (base ++ "/cklint/config.toml")

/-- Write what changed between two trees. -/
def store (old new : FileTree) : IO Unit := do
  for (p, text) in new.files do
    if old.text? p != some text then
      IO.FS.createDirAll (textOf p.dropLast)
      IO.FS.writeFile (textOf p) text
      if p.getLast? == some Hook.name then
        let all : IO.AccessRight := { read := true, write := true, execution := true }
        let others : IO.AccessRight := { all with write := false }
        IO.setAccessRights (textOf p) { user := all, group := others, other := others }
  for (p, _) in old.files do
    if !new.isFile p then IO.FS.removeFile (textOf p)

/-- Run a command line in a directory. -/
def run (here : Path) (line : CommandLine) : IO UInt32 := do
  let userFile ← userFile
  let repository ← findRepository here line
  let settingsPaths :=
    (ancestors here.reverse).flatMap fun d => Settings.fileNames.map (d ++ ·)
  let paths :=
    here :: userFile :: settingsPaths ++ namedPaths here line ++
      repository.toList.flatMap hookPaths
  let files ← paths.foldlM fetch { isWhole := true }
  let now := (← IO.monoMsNow) / 1000
  let w : Workspace :=
    { files := files
      here := here
      userFile := userFile
      repository := repository
      explain := fun _ => "invalid armor"
      clock := fun _ => now }
  match w.run? line with
  | none =>
    IO.eprintln "Error: the run cannot be timed or reported"
    return 101
  | some transcript =>
    IO.print transcript.output
    store files transcript.files
    match transcript.result with
    | .ok () => return 0
    | .error (.commitsFailed _ _) => return 1
    | .error failure =>
      IO.eprintln s!"Error: {failure.message}"
      return 1

end CommitLint.Program

/-- Read the command line and run it. -/
def main (args : List String) : IO UInt32 := do
  let here := CommitLint.Program.namesOf (← IO.currentDir).toString
  match CommitLint.CommandLine.read (← IO.getEnv "CKLINT_CONFIG") args with
  | .ok line => CommitLint.Program.run here line
  | .error fault =>
    if fault.exitStatus = 0 then IO.println fault.message
    else IO.eprintln s!"error: {fault.message}"
    return UInt32.ofNat fault.exitStatus
