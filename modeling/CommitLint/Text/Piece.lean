import CommitLint.Text.Blank

/-!
# Pieces and words

Splitting a text at separators, and joining texts again. The words of a text are its pieces between
blanks that hold something. And replacing a character of a text, wherever it stands.
-/

namespace CommitLint.Text

/-- The pieces between the characters satisfying `p`; there is always at least one. -/
def piecesBy (p : Char → Bool) : List Char → List (List Char)
  | [] => [[]]
  | c :: s =>
    if p c then [] :: piecesBy p s
    else
      match piecesBy p s with
      | [] => [[c]]
      | w :: ws => (c :: w) :: ws

/-- The pieces between the occurrences of `sep`. -/
def pieces (sep : Char) (s : List Char) : List (List Char) := piecesBy (· == sep) s

/-- The maximal runs of characters that do not satisfy `p`, in order. -/
def runsWithout (p : Char → Bool) (s : List Char) : List (List Char) :=
  (piecesBy p s).filter (!·.isEmpty)

/-- The words of a text: its maximal runs of characters that are not blank. -/
def words (s : List Char) : List (List Char) := runsWithout isBlank s

/-- The texts with `sep` between neighbours. -/
def joinWith (sep : List Char) : List (List Char) → List Char
  | [] => []
  | [p] => p
  | p :: q :: ps => p ++ sep ++ joinWith sep (q :: ps)

/-- A text with another one in place of each occurrence of a character. -/
def replaceChar (c : Char) (new s : List Char) : List Char :=
  s.flatMap fun d => if d = c then new else [d]

end CommitLint.Text
