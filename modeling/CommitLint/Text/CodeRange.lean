/-!
# Ranges of code points

A Unicode property is a table of ranges. Alternating capital and small letters make ranges with a
step of two common, so a range carries its step.
-/

namespace CommitLint.Text

/-- The code points `first`, `first + step`, and so on up to `last`. -/
structure CodeRange where
  first : Nat
  last : Nat
  step : Nat
  deriving DecidableEq, Repr

/-- Whether a code point belongs to the range. -/
def CodeRange.contains (r : CodeRange) (n : Nat) : Bool :=
  r.first ≤ n && n ≤ r.last && (n - r.first) % r.step == 0

/-- Whether a code point belongs to one of the ranges of a table. -/
def inRanges (table : List CodeRange) (n : Nat) : Bool :=
  table.any (·.contains n)

end CommitLint.Text
