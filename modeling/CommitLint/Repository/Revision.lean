import CommitLint.Text.Find
import CommitLint.Text.Piece

/-!
# Revisions

How a commit is named: a name, and steps from the commit it stands for to an ancestor. `x^n` is the
n-th parent of `x`, `x~n` its n-th ancestor along first parents, and a number that is left out is
one.
-/

namespace CommitLint

open Text

/-- A step to an ancestor. -/
inductive Revision.Step where
  /-- To a parent, counted from one. A zero stays where it is. -/
  | parent (n : Nat)
  /-- Some times to the first parent. -/
  | ancestor (n : Nat)
  deriving DecidableEq, Repr

/-- Where steps start. -/
inductive Revision.Start where
  /-- A reference or a hash. -/
  | named (name : List Char)
  /-- The present value of a reference. -/
  | present (reference : List Char)
  deriving DecidableEq, Repr

/-- A name of a commit. -/
structure Revision where
  start : Revision.Start
  steps : List Revision.Step
  deriving DecidableEq, Repr

namespace Revision

/-- The name of the commit that is checked out. -/
def head : List Char := "HEAD".toList

/-- The number that some digits stand for. -/
def number (digits : List Char) : Nat := digits.foldl (fun n c => n * 10 + (c.toNat - 48)) 0

/-- A number at the start of a text, one if there is none, and what follows it. -/
def count (s : List Char) : Nat × List Char :=
  match s.takeWhile Char.isDigit with
  | [] => (1, s)
  | d :: ds => (number (d :: ds), s.dropWhile Char.isDigit)

theorem length_count_le (s : List Char) : (count s).2.length ≤ s.length := by
  unfold count
  split
  · exact Nat.le_refl _
  · exact (List.dropWhile_suffix _).length_le

/-- The steps that a text describes. Braces after a caret may ask for a commit, which every step
leads to anyway. -/
def steps? : List Char → Option (List Step)
  | [] => some []
  | '^' :: '{' :: '}' :: s => steps? s
  | '^' :: '{' :: 'c' :: 'o' :: 'm' :: 'm' :: 'i' :: 't' :: '}' :: s => steps? s
  | '^' :: '{' :: _ => none
  | '^' :: s => (steps? (count s).2).map (.parent (count s).1 :: ·)
  | '~' :: s => (steps? (count s).2).map (.ancestor (count s).1 :: ·)
  | _ :: _ => none
termination_by s => s.length
decreasing_by
  · simp only [List.length_cons]; omega
  · simp only [List.length_cons]; omega
  · have := length_count_le s; simp only [List.length_cons]; omega
  · have := length_count_le s; simp only [List.length_cons]; omega

/-- A text before and from the first character that starts steps. -/
def splitName : List Char → List Char × List Char
  | [] => ([], [])
  | '@' :: '{' :: s => ([], '@' :: '{' :: s)
  | c :: s =>
    if ['^', '~', ':'].contains c then ([], c :: s)
    else ((c :: (splitName s).1), (splitName s).2)

/-- Whether a text between braces asks for the present value of a reference: it starts with a
number, and that is zero. -/
def isPresent (s : List Char) : Bool :=
  let s := s.dropWhile fun c => c == ' ' || (9 ≤ c.toNat && c.toNat ≤ 13)
  let digits := ((afterStart? ['+'] s).getD s).takeWhile Char.isDigit
  !digits.isEmpty && number digits == 0

/-- The revision that a text describes. An at-sign alone is the commit that is checked out; after a
name it introduces earlier values of the name, of which only the present one is known. -/
def parse? (s : List Char) : Option Revision :=
  if s = ['@'] then some ⟨.named head, []⟩
  else
    match splitName s with
    | (name, '@' :: '{' :: rest) => do
      let (content, rest) ← cutAt '}' rest
      if isPresent content then
        some ⟨.present (if name.isEmpty then head else name), ← steps? rest⟩
      else none
    | (name, rest) => do
      if name.isEmpty then none else some ⟨.named name, ← steps? rest⟩

end Revision

end CommitLint
