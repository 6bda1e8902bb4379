import CommitLint.Date
import CommitLint.Message
import CommitLint.Text.Utf8

/-!
# Commits

What the rules look at. Only the message is stored; subject and body are read off it, so they cannot
disagree with it.
-/

namespace CommitLint

/-- A commit: its message, and what is known about where it comes from. -/
structure Commit where
  message : String
  hash : String := ""
  author : String := ""
  authorEmail : String := ""
  /-- When the commit was made, if it is dated. -/
  date : Option Date.Instant := none
  signature : String := ""
  isMerge : Bool := false
  deriving DecidableEq, Repr, Inhabited

namespace Commit

/-- The first line of the message, without trailing blanks. -/
def subject (c : Commit) : String := .ofList (Message.subject c.message.toList)

/-- The rest of the message, without the blank lines that separate it from the subject. -/
def body (c : Commit) : String := .ofList (Message.body c.message.toList)

/-- Whether the message holds nothing but blanks. -/
def isEmpty (c : Commit) : Bool := Text.isBlankText c.message.toList

/-- The number of bytes of an abbreviated hash. -/
def shortHashBytes : Nat := 7

/-- The first bytes of the hash, if a character ends where they do. -/
def shortHash? (c : Commit) : Option String :=
  (Text.takeBytes? shortHashBytes c.hash.toList).map .ofList

/-- The unsaved commit whose message stands in a message file. -/
def ofMessageFile (file : String) : Commit where
  message := .ofList (Message.clean file.toList)

end Commit

end CommitLint
