import CommitLint.Text.Find
import CommitLint.Text.Letter
import CommitLint.Text.Piece

/-!
# Conventional subjects

A conventional subject reads `type(scope)!: description`. `parse?` tells its parts, and `render`
writes them down in the one way that has no superfluous blanks.
-/

namespace CommitLint

open Text

/-- The parts of a conventional subject. -/
structure Subject where
  type : List Char
  /-- The text between the parentheses, when there are parentheses. -/
  rawScope : Option (List Char)
  breaking : Bool
  /-- The text after the colon, without the spaces before it. -/
  description : List Char
  deriving DecidableEq, Repr

namespace Subject

/-- The types that a commit has by convention. -/
def standardTypes : List String :=
  ["feat", "fix", "docs", "style", "refactor", "perf", "test", "build", "ci", "chore", "revert"]

/-- Whether a character may stand between the parentheses of a subject. -/
def isScopeChar (c : Char) : Bool :=
  c != '(' && c != ')' && c != ':' && c != '\r' && c != '\n'

/-- The scopes that a text between parentheses lists. -/
def scopesOf (raw : List Char) : List (List Char) :=
  ((pieces ',' raw).map trim).filter (!·.isEmpty)

/-- The scopes of a subject, in order. -/
def scopes (s : Subject) : List (List Char) :=
  match s.rawScope with
  | none => []
  | some raw => scopesOf raw

/-- The text between parentheses at the beginning, if there is one, and what follows it; nothing if
the parenthesis that opens is not closed. -/
def readScope? : List Char → Option (Option (List Char) × List Char)
  | '(' :: s =>
    match s.dropWhile isScopeChar with
    | ')' :: rest => some (some (s.takeWhile isScopeChar), rest)
    | _ => none
  | s => some (none, s)

/-- Whether the mark of a breaking change stands at the beginning, and what follows it. -/
def readBreaking : List Char → Bool × List Char
  | '!' :: s => (true, s)
  | s => (false, s)

/-- Whether a text may follow the colon: nothing, or a space and the rest of a line. -/
def isRest : List Char → Bool
  | [] => true
  | c :: s => c == ' ' && s.all (· != '\n')

/-- The parts of a subject line, when it is conventional. -/
def parse? (line : List Char) : Option Subject :=
  let type := line.takeWhile isNameChar
  if type.isEmpty then none
  else do
    let (rawScope, afterScope) ← readScope? (line.dropWhile isNameChar)
    match readBreaking afterScope with
    | (breaking, ':' :: rest) =>
      if isRest rest then some ⟨type, rawScope, breaking, rest.dropWhile (· == ' ')⟩ else none
    | _ => none

/-- The parts of a line; when the line is not conventional, there is nothing in any of them. -/
def parts (line : List Char) : Subject := (parse? line).getD ⟨[], none, false, []⟩

/-- The subject of a type, some scopes, a mark for breaking changes and a description. -/
def render (type : List Char) (scopes : List (List Char)) (breaking : Bool)
    (description : List Char) : List Char :=
  type ++ (if scopes.isEmpty then [] else '(' :: joinWith [','] scopes ++ [')']) ++
    (if breaking then ['!'] else []) ++ ':' :: ' ' :: description

/-- The number of spaces after the first colon, when there is a colon. -/
def spacesAfterColon? (line : List Char) : Option Nat :=
  (cutAt ':' line).map fun (_, rest) => (rest.takeWhile (· == ' ')).length

/-- The text whose first word counts: the description of a conventional subject, and otherwise the
whole line. -/
def statement (line : List Char) : List Char :=
  match parse? line with
  | some s => s.description
  | none => line

end Subject

end CommitLint
