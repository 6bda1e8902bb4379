import CommitLint.Text.Piece

/-!
# Lines

A line ends at a line feed, together with one carriage return before it. A carriage return
elsewhere is an ordinary character, and a text that ends with a line feed has no empty line after
it.
-/

namespace CommitLint.Text

/-- A line without the carriage return at its end. -/
def dropCarriageReturn : List Char → List Char
  | [] => []
  | ['\r'] => []
  | c :: s => c :: dropCarriageReturn s

/-- The lines from the pieces between line feeds: the last piece is a line only if it holds
something, and has no line feed after it to take a carriage return with. -/
def linesOfPieces : List (List Char) → List (List Char)
  | [] => []
  | [p] => if p.isEmpty then [] else [p]
  | p :: q :: ps => dropCarriageReturn p :: linesOfPieces (q :: ps)

/-- The lines of a text. -/
def lines (s : List Char) : List (List Char) := linesOfPieces (pieces '\n' s)

/-- The texts as lines, without a line feed after the last one. -/
def unlines (ls : List (List Char)) : List Char := joinWith ['\n'] ls

end CommitLint.Text
