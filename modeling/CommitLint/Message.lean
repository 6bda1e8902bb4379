import CommitLint.Text.Find
import CommitLint.Text.Line

/-!
# Commit messages

A message is split into a subject, its first line, and a body, the lines after it. The file that an
editor hands over is cleaned first: comments go, and so does everything below the scissors line.
-/

namespace CommitLint.Message

open Text

/-- The subject: the first line without its trailing blanks. -/
def subject (message : List Char) : List Char := trimEnd ((lines message).headD [])

/-- The body: the lines after the first, from the first that is not blank, without trailing
blanks. -/
def body (message : List Char) : List Char :=
  trimEnd (unlines ((lines message).tail.dropWhile isBlankText))

/-- The line below which an editor shows the changes that are about to be committed. -/
def scissors : List Char := "# ------------------------ >8 ------------------------".toList

/-- Whether a line of a message file is a comment. -/
def isComment (line : List Char) : Bool := line.head? == some '#'

/-- The lines of a message file that belong to the message. -/
def keptLines (file : List Char) : List (List Char) :=
  ((lines file).takeWhile (· != scissors)).filter (!isComment ·)

/-- The message in a message file: its lines above the scissors that are no comments, each without
trailing blanks, and without blanks at either end of the whole. -/
def clean (file : List Char) : List Char := trim (unlines ((keptLines file).map trimEnd))

end CommitLint.Message
