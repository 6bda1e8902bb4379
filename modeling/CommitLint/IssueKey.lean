import CommitLint.Text.Letter

/-!
# Issue keys

An issue key is a project in capital letters, a hyphen, and decimal digits of any script. In running
text a key stands between word boundaries.
-/

namespace CommitLint.IssueKey

open Text

/-- Whether a text is exactly one key. -/
def isKey (s : List Char) : Bool :=
  !(s.takeWhile isCapitalAscii).isEmpty &&
    match s.dropWhile isCapitalAscii with
    | '-' :: digits => !digits.isEmpty && digits.all isDecimal
    | _ => false

/-- The project of a key: what stands before its first hyphen. -/
def project (key : List Char) : List Char := key.takeWhile (· != '-')

/-- Whether no word character stands first. -/
def atWordEnd (s : List Char) : Bool := !(s.head?.any isWordChar)

/-- The key that a text begins with: its longest one that is followed by a word boundary. Digits are
word characters, so the boundary can only be where the digits end. -/
def keyAtStart? (s : List Char) : Option (List Char) :=
  let letters := s.takeWhile isCapitalAscii
  match s.dropWhile isCapitalAscii with
  | '-' :: rest =>
    let digits := rest.takeWhile isDecimal
    if letters.isEmpty || digits.isEmpty || !atWordEnd (rest.dropWhile isDecimal) then none
    else some (letters ++ '-' :: digits)
  | _ => none

/-- The keys of a text from left to right. `inWord` tells whether a word character stands before the
text, and `skip` how many characters belong to a key that was found already. -/
def findFrom (inWord : Bool) (skip : Nat) : List Char → List (List Char)
  | [] => []
  | c :: s =>
    match skip with
    | n + 1 => findFrom (isWordChar c) n s
    | 0 =>
      match if inWord then none else keyAtStart? (c :: s) with
      | some key => key :: findFrom (isWordChar c) (key.length - 1) s
      | none => findFrom (isWordChar c) 0 s

/-- The keys of a text. -/
def find (s : List Char) : List (List Char) := findFrom false 0 s

end CommitLint.IssueKey
