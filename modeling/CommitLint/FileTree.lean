import CommitLint.Text.Piece

/-!
# File trees

The files that a run sees: texts at paths below a root. A directory exists because it was made, or
because something is in it.
-/

namespace CommitLint

/-- The names from the root to a file or a directory. -/
abbrev Path := List String

/-- Files with their texts, and directories that may be empty. -/
structure FileTree where
  files : List (Path × String) := []
  directories : List Path := []
  /-- Whether the root of the tree is that of the file system. -/
  isWhole : Bool := false
  deriving DecidableEq, Repr, Inhabited

/-- Why a file could not be read. -/
inductive ReadFault where
  | notFound
  | notADirectory
  | isADirectory
  deriving DecidableEq, Repr

/-- The wording of a fault of reading. -/
def ReadFault.message : ReadFault → String
  | .notFound => "No such file or directory (os error 2)"
  | .notADirectory => "Not a directory (os error 20)"
  | .isADirectory => "Is a directory (os error 21)"

namespace FileTree

/-- The text of the file at a path. -/
def text? (t : FileTree) (p : Path) : Option String := t.files.lookup p

/-- Whether there is a file at a path. -/
def isFile (t : FileTree) (p : Path) : Bool := (t.text? p).isSome

/-- Whether one path leads to another, or to something below it. -/
def leadsTo (p q : Path) : Bool := p.isPrefixOf q

/-- Whether there is a directory at a path. -/
def isDirectory (t : FileTree) (p : Path) : Bool :=
  p.isEmpty || t.directories.any (leadsTo p) ||
    t.files.any fun (q, _) => leadsTo p q && p.length < q.length

/-- Whether there is anything at a path. -/
def exists? (t : FileTree) (p : Path) : Bool := t.isFile p || t.isDirectory p

/-- The tree with a text at a path. -/
def write (t : FileTree) (p : Path) (text : String) : FileTree :=
  { t with files := (p, text) :: t.files.filter (·.1 != p) }

/-- The tree without the file at a path. The directory that it was in stays. -/
def remove (t : FileTree) (p : Path) : FileTree :=
  { t with
    files := t.files.filter (·.1 != p)
    directories := if t.isFile p then p.dropLast :: t.directories else t.directories }

/-- The path that names lead to from a directory. A dot stays, two dots go up, and whatever is gone
through has to be a directory. -/
def follow (t : FileTree) : Path → List String → Except ReadFault Path
  | here, [] => .ok here
  | here, name :: names =>
    if t.isDirectory here then
      if name = "" ∨ name = "." then t.follow here names
      else if name = ".." then t.follow here.dropLast names
      else t.follow (here ++ [name]) names
    else if t.isFile here then .error .notADirectory
    else .error .notFound

/-- The path that a written one leads to from a directory. The empty text leads nowhere, and a text
that starts with a slash starts at the root of the file system. -/
def resolve (t : FileTree) (here : Path) (written : String) : Except ReadFault Path :=
  let names (cs : List Char) : List String := (Text.pieces '/' cs).map String.ofList
  match written.toList with
  | [] => .error .notFound
  | '/' :: cs => if t.isWhole then t.follow [] (names cs) else .error .notFound
  | cs => t.follow here (names cs)

/-- Whether a written path leads to anything. -/
def has (t : FileTree) (here : Path) (written : String) : Bool :=
  match t.resolve here written with
  | .ok p => t.exists? p
  | .error _ => false

/-- The text of the file that a written path leads to. -/
def read (t : FileTree) (here : Path) (written : String) : Except ReadFault String := do
  let p ← t.resolve here written
  match t.text? p with
  | some text => .ok text
  | none => .error (if t.isDirectory p then .isADirectory else .notFound)

end FileTree

end CommitLint
