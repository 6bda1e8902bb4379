import CommitLint.Collaborator
import CommitLint.Failure
import CommitLint.FileTree
import CommitLint.Repository.History
import CommitLint.Repository.Revision

/-!
# Repositories

A history, and names for some of its commits: branches, branches of remote repositories, tags, and
the head, which is a branch or a commit. Commits are looked up by revision and loaded one by one, by
number, or by range; and it is counted how far the head is ahead of a branch.
-/

namespace CommitLint

open Text

/-- What is checked out: a branch, which need not exist yet, or a commit. -/
inductive Head where
  | branch (name : String)
  | detached (hash : String)
  deriving DecidableEq, Repr, Inhabited

/-- A repository in some directory. -/
structure Repository where
  /-- The directory of the working tree. -/
  place : Path
  /-- Whether there is no working tree. -/
  isBare : Bool := false
  history : History := {}
  branches : List (String × String) := []
  remoteBranches : List (String × String) := []
  tags : List (String × String) := []
  head : Head := .branch "main"

namespace Repository

/-- The directory in which git keeps its data. -/
def gitDirectory (r : Repository) : Path := r.place ++ [".git"]

/-- The repository that a directory belongs to, which is the one it lies in. -/
def discover (r : Option Repository) (here : Path) : Except Failure Repository :=
  match r with
  | none => .error .notARepository
  | some r =>
    if FileTree.leadsTo r.place here then
      if r.isBare then .error .repositoryUnreadable else .ok r
    else .error .notARepository

/-! ### References -/

/-- The hash that the head stands for. -/
def headHash? (r : Repository) : Option String :=
  match r.head with
  | .branch name => r.branches.lookup name
  | .detached hash => some hash

/-- The references of a repository, apart from the head, by their full names. -/
def references (r : Repository) : List (String × String) :=
  r.branches.map (fun (n, hash) => ("refs/heads/" ++ n, hash)) ++
    r.remoteBranches.map (fun (n, hash) => ("refs/remotes/" ++ n, hash)) ++
    r.tags.map (fun (n, hash) => ("refs/tags/" ++ n, hash))

/-- The hash of a reference that is given by its full name. -/
def reference? (r : Repository) (name : String) : Option String :=
  if name = "HEAD" then r.headHash? else r.references.lookup name

/-- The full names that a short one may stand for, in the order in which they are tried. -/
def fullNames (name : String) : List String :=
  [name, "refs/" ++ name, "refs/tags/" ++ name, "refs/heads/" ++ name, "refs/remotes/" ++ name,
    "refs/remotes/" ++ name ++ "/HEAD"]

/-- The hash of a reference that is given by a short name. -/
def shortReference? (r : Repository) (name : String) : Option String :=
  (fullNames name).findSome? r.reference?

/-! ### Revisions -/

/-- Whether a character is a hexadecimal digit. -/
def isHexDigit (c : Char) : Bool :=
  c.isDigit || ('a' ≤ c && c ≤ 'f') || ('A' ≤ c && c ≤ 'F')

/-- The number of digits in a hash. -/
def hashLength : Nat := 40

/-- The least number of digits in an abbreviated hash. -/
def leastHashLength : Nat := 4

/-- The only commit whose hash starts with some digits. -/
def abbreviated? (r : Repository) (digits : List Char) : Option StoredCommit :=
  if leastHashLength ≤ digits.length && digits.length ≤ hashLength && digits.all isHexDigit then
    match r.history.commits.filter fun c =>
        startsWith (digits.map Char.toLower) c.hash.toList with
    | [c] => some c
    | _ => none
  else none

/-- The abbreviated hash at the end of a description: a name, a number of commits, and the hash
after the letter `g`, with dashes between them. -/
def describedHash? (name : List Char) : Option (List Char) := do
  let (before, digits) ← cutAtText ['-', 'g'] name
  let (tag, number) ← cutAtLast '-' before
  if !tag.isEmpty && !number.isEmpty && number.all Char.isDigit then some digits else none

/-- The commit of a name: a whole hash, a reference, the beginning of a hash, or a description, in
this order. -/
def named? (r : Repository) (name : List Char) : Option StoredCommit :=
  match if name.length = hashLength then r.abbreviated? name else none with
  | some c => some c
  | none =>
    match r.shortReference? (.ofList name) with
    | some hash => r.history.find? hash
    | none => (r.abbreviated? name).or ((describedHash? name).bind r.abbreviated?)

/-- The commit from which the steps of a revision start. -/
def start? (r : Repository) : Revision.Start → Option StoredCommit
  | .named name => r.named? name
  | .present reference => (r.shortReference? (.ofList reference)).bind r.history.find?

/-- The n-th ancestor along first parents. -/
def ancestor? (r : Repository) (c : StoredCommit) : Nat → Option StoredCommit
  | 0 => some c
  | n + 1 => do r.ancestor? (← r.history.find? (← c.parents.head?)) n

/-- The commit that a step leads to. -/
def step? (r : Repository) (c : StoredCommit) : Revision.Step → Option StoredCommit
  | .parent 0 => some c
  | .parent (n + 1) => c.parents[n]?.bind r.history.find?
  | .ancestor n => r.ancestor? c n

/-- The commit of a revision. -/
def resolve? (r : Repository) (revision : List Char) : Option StoredCommit := do
  let v ← Revision.parse? revision
  v.steps.foldlM r.step? (← r.start? v.start)

/-- The commit of a revision, or the failure to find it. -/
def resolve (r : Repository) (revision : List Char) : Except Failure StoredCommit :=
  match r.resolve? revision with
  | some c => .ok c
  | none => .error (.invalidReference (.ofList revision))

/-! ### Branches -/

/-- A name as it is looked up among branches, where repeated and leading slashes do not count; a
name cannot end with one. -/
def branchName? (name : List Char) : Option String :=
  if name.getLast? = some '/' then none
  else some (.ofList (joinWith ['/'] ((pieces '/' name).filter (!·.isEmpty))))

/-- Whether there is a branch of a name in some list. -/
def isBranch (branches : List (String × String)) (name : List Char) : Bool :=
  match branchName? name with
  | some n => (branches.lookup n).isSome
  | none => false

/-- The revision by which a branch is known: its name, or if there is no such branch here, that of
the branch in the remote repository `origin`. -/
def branchRevision? (r : Repository) (branch : List Char) : Option (List Char) :=
  let remote := "origin/".toList ++ branch
  if isBranch r.branches branch then some branch
  else if isBranch r.remoteBranches remote then some remote
  else none

/-! ### Loading commits -/

/-- The commit of a revision. -/
def commit (r : Repository) (revision : List Char) : Except Failure Commit := do
  return (← r.resolve revision).load

/-- Load the commits of a walk one after the other, behind those loaded so far, until there are as
many as there may be. Nothing is loaded only to be dropped: the number is looked at before each
step. -/
def loadWalk (limit : Option Nat) (loaded : List Commit) : List StoredCommit → List Commit
  | [] => loaded
  | c :: walk =>
    if limit.any (· ≤ loaded.length) then loaded
    else loadWalk limit (loaded ++ [c.load]) walk

/-- The last commits that can be reached from a revision, newest first. -/
def recent (r : Repository) (revision : List Char) (count : Nat) :
    Except Failure (List Commit) := do
  let tip ← r.resolve revision
  return loadWalk (some count) [] (r.history.walk tip)

/-- The commits of a range `base..tip`, newest first. A tip that is left out is the head. -/
def range (r : Repository) (written : List Char) : Except Failure (List Commit) := do
  let some (base, tip) := cutAtText ['.', '.'] written
    | throw (.invalidReference (.ofList written))
  let base ← r.resolve base
  let tip ← r.resolve (if tip.isEmpty then Revision.head else tip)
  return loadWalk none [] (r.history.between base tip)

/-- The commits on the head that are not on a branch, newest first. -/
def since (r : Repository) (branch : List Char) : Except Failure (List Commit) :=
  match r.branchRevision? branch with
  | some base => r.range (base ++ "..HEAD".toList)
  | none => .error (.invalidReference (.ofList branch))

/-! ### Counting commits -/

/-- Why the head cannot be resolved. -/
def headFault (r : Repository) : AheadFault :=
  .other <|
    match r.head with
    | .branch name => s!"reference 'refs/heads/{name}' not found"
    | .detached hash => s!"object not found - no match for id ({hash})"

/-- The number of commits on the head that are not on a branch. Work may be cancelled at first, or
once both ends have been found. -/
def ahead (r : Repository) (cancelled cancelledLater : Bool) (branch : String) : AheadReply :=
  if cancelled then .error .cancelled
  else
    match r.branchRevision? branch.toList with
    | none => .error (.referenceNotFound branch)
    | some revision =>
      match r.resolve? revision with
      | none => .error (.other ("revspec '" ++ .ofList revision ++ "' not found"))
      | some base =>
        match r.headHash?.bind r.history.find? with
        | none => .error r.headFault
        | some tip =>
          if cancelledLater then .error .cancelled
          else .ok (r.history.aheadCount tip.hash base.hash)

end Repository

end CommitLint
