import CommitLint.FileTree
import CommitLint.Settings.Layer

/-!
# Finding the files of settings

A project has its settings in one of three files, in the nearest directory that has any of them. The
settings of the user lie below those of the project. A file that is named outright stands alone.
-/

namespace CommitLint.Settings

/-- The names of a file of settings within a directory, the preferred one first. -/
def fileNames : List Path := [["cklint.toml"], [".cklint.toml"], [".config", "cklint.toml"]]

/-- The file of settings in a directory. -/
def fileIn? (t : FileTree) (directory : Path) : Option Path :=
  (fileNames.map (directory ++ ·)).find? t.exists?

/-- The file of settings in the nearest of some directories: the one whose names are given from the
last to the first, and those above it. -/
def nearestFile? (t : FileTree) : List String → Option Path
  | [] => fileIn? t []
  | name :: above =>
    match fileIn? t (name :: above).reverse with
    | some file => some file
    | none => nearestFile? t above

/-- The file of settings for work in a directory. -/
def projectFile? (t : FileTree) (here : Path) : Option Path := nearestFile? t here.reverse

/-- The text of a file of settings that exists. -/
def readLayer (t : FileTree) (p : Path) : Except Failure String :=
  match t.text? p with
  | some text => .ok text
  | none => .error .settingsUnreadable

/-- The settings for work in a directory: those of the user, if there are any, below those of the
project. -/
def load (t : FileTree) (userFile here : Path) : Except Failure Settings := do
  let files := (if t.exists? userFile then [userFile] else []) ++ (projectFile? t here).toList
  ofLayers (← files.mapM (readLayer t))

/-- The settings in the file that a written path leads to. -/
def loadFrom (t : FileTree) (here : Path) (written : String) : Except Failure Settings :=
  if t.has here written then
    match t.read here written with
    | .ok text => ofLayers [text]
    | .error _ => .error .settingsUnreadable
  else .error (.settingsNotFound written)

end CommitLint.Settings
