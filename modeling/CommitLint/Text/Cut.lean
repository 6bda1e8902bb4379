import CommitLint.Text.Find

/-!
# Places that count bytes

A search tells a place in a text by the number of bytes before it, and a text is cut at a number of
bytes. There is no such cut where the text has fewer bytes or a character goes on.
-/

namespace CommitLint.Text

/-- The number of bytes before the first occurrence of `needle`. -/
def offset? (needle : List Char) : List Char → Option Nat
  | [] => if needle.isEmpty then some 0 else none
  | c :: s =>
    if startsWith needle (c :: s) then some 0 else (offset? needle s).map (c.utf8Size + ·)

/-- What stands before and after byte `n`, unless the text ends before it or it falls into a
character. -/
def splitBytes? : Nat → List Char → Option (List Char × List Char)
  | 0, s => some ([], s)
  | _ + 1, [] => none
  | n + 1, c :: s =>
    if c.utf8Size ≤ n + 1 then
      (splitBytes? (n + 1 - c.utf8Size) s).map fun (b, a) => (c :: b, a)
    else none

/-- What stands after byte `n`. -/
def fromByte? (n : Nat) (s : List Char) : Option (List Char) := (splitBytes? n s).map (·.2)

/-- What stands before byte `n`. -/
def upToByte? (n : Nat) (s : List Char) : Option (List Char) := (splitBytes? n s).map (·.1)

end CommitLint.Text
