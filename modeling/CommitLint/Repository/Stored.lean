import CommitLint.Commit
import CommitLint.Date
import CommitLint.Text.Blank
import CommitLint.Text.Find

/-!
# Stored commits

A commit as a repository keeps it: raw bytes for the message, and one line for whoever wrote it,
`Name <mail>`. A stored commit is loaded by reading these.
-/

namespace CommitLint

open Text

/-- A commit in a repository. -/
structure StoredCommit where
  hash : String
  parents : List String := []
  /-- Who wrote the commit, in the form `Name <mail>`. -/
  author : String
  /-- Seconds since the beginning of 1970. -/
  time : Int := 0
  message : List UInt8
  /-- The signature header, empty for a commit that is not signed. -/
  signature : String := ""
  deriving DecidableEq, Repr, Inhabited

namespace StoredCommit

/-- Whether a character is dropped from either end of a name and of a mail address: blanks, control
characters and some punctuation. -/
def isFringe (c : Char) : Bool :=
  c.toNat ≤ 0x20 || ['.', ',', ':', ';', '<', '>', '"', '\\', '\''].contains c

/-- A text up to its first null character. -/
def beforeNull (s : List Char) : List Char := s.takeWhile (· != '\x00')

/-- A name or a mail address without the fringe around it. -/
def core (s : List Char) : List Char := beforeNull (trimBoth isFringe s)

/-- The name and the mail address in a line. The address stands between the last opening bracket and
the last closing one. -/
def readAuthor? (line : List Char) : Option (List Char × List Char) := do
  let (name, rest) ← cutAtLast '<' line
  let (address, _) ← cutAtLast '>' rest
  some (core name, core address)

/-- Whether the parts of a commit can be read: the line of its author names a mail address and is
one line, and its time fits into 64 bits with a sign. -/
def isReadable (c : StoredCommit) : Bool :=
  (readAuthor? c.author.toList).isSome && !c.author.contains '\n' &&
    -0x8000000000000000 ≤ c.time && c.time < 0x8000000000000000

/-- The bytes of a message: those before the first null byte, without line feeds at the start. -/
def messageBytes (c : StoredCommit) : List UInt8 :=
  (c.message.takeWhile (· != 0)).dropWhile (· == 10)

/-- The commit that the rules look at. One with more than one parent is a merge. -/
def load (c : StoredCommit) : Commit :=
  let author := (readAuthor? c.author.toList).getD ([], [])
  { message := .ofList (decodeLossy c.messageBytes)
    hash := c.hash
    author := .ofList author.1
    authorEmail := .ofList author.2
    date := if Date.isRepresentable c.time then some { seconds := c.time } else none
    signature := c.signature
    isMerge := 1 < c.parents.length }

end StoredCommit

end CommitLint
