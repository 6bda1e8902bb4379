import CommitLint.Text.Casing
import CommitLint.Text.Find

/-!
# Trailers

Lines such as `Signed-off-by: Name <name@example.com>` at the end of a body.
-/

namespace CommitLint.Trailer

open Text

/-- What a sign-off line starts with. -/
def signOffStart : List Char := "Signed-off-by: ".toList

/-- Whether a character may stand in a mail address. -/
def isAddressChar (c : Char) : Bool := c != '<' && c != '>' && !isBlank c

/-- Whether a text is a mail address: something on both sides of an at sign. -/
def isAddress (s : List Char) : Bool :=
  s.all isAddressChar && (s.drop 1).dropLast.contains '@'

/-- Whether a text is a name, a space, and a mail address in angle brackets. The name runs to the
only opening bracket. -/
def isSigner (s : List Char) : Bool :=
  match cutAt '<' s with
  | none => false
  | some (before, after) =>
    match beforeEnd? [' '] before, beforeEnd? ['>'] after with
    | some name, some address => !name.isEmpty && isAddress address
    | _, _ => false

/-- Whether a line, blanks around it aside, is a well-formed sign-off. -/
def isSignOff (line : List Char) : Bool :=
  match afterStart? signOffStart (trim line) with
  | none => false
  | some signer => isSigner signer

/-- Whether a line looks like a sign-off, well-formed or not. -/
def isSignOffAttempt (line : List Char) : Bool :=
  occurs "Signed".toList line && occurs "by:".toList line

/-- The keys of the trailers that may stand after a sign-off. -/
def permittedKeys : List (List Char) :=
  ["signed-off-by".toList, "co-authored-by".toList, "reviewed-by".toList, "acked-by".toList,
    "tested-by".toList, "reported-by".toList, "fixes".toList, "closes".toList, "resolves".toList]

/-- Whether a line is a trailer that may stand after a sign-off: a permitted key, a colon, and a
value. -/
def isPermitted (line : List Char) : Bool :=
  match cutAt ':' line with
  | none => false
  | some (key, value) => permittedKeys.contains (lower (trim key)) && !isBlankText value

end CommitLint.Trailer
