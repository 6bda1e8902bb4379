import CommitLint.Text.Blank

/-!
# Searching a text

Cutting a text at the first occurrence of a character or of another text.
-/

namespace CommitLint.Text

/-- What stands before and after the first occurrence of `sep`. -/
def cutAt (sep : Char) : List Char → Option (List Char × List Char)
  | [] => none
  | c :: s => if c = sep then some ([], s) else (cutAt sep s).map fun (b, a) => (c :: b, a)

/-- What remains of a text after a given beginning. -/
def afterStart? : List Char → List Char → Option (List Char)
  | [], s => some s
  | _ :: _, [] => none
  | p :: ps, c :: s => if p = c then afterStart? ps s else none

/-- What stands before and after the first occurrence of `needle`. -/
def cutAtText (needle : List Char) : List Char → Option (List Char × List Char)
  | [] => if needle.isEmpty then some ([], []) else none
  | c :: s =>
    match afterStart? needle (c :: s) with
    | some after => some ([], after)
    | none => (cutAtText needle s).map fun (b, a) => (c :: b, a)

/-- What stands before and after the last occurrence of `needle`. -/
def cutAtLastText (needle : List Char) : List Char → Option (List Char × List Char)
  | [] => if needle.isEmpty then some ([], []) else none
  | c :: s =>
    match cutAtLastText needle s with
    | some (b, a) => some (c :: b, a)
    | none => (afterStart? needle (c :: s)).map fun after => ([], after)

/-- What stands before and after the last occurrence of `sep`. -/
def cutAtLast (sep : Char) : List Char → Option (List Char × List Char)
  | [] => none
  | c :: s =>
    match cutAtLast sep s with
    | some (b, a) => some (c :: b, a)
    | none => if c = sep then some ([], s) else none

/-- Whether `needle` occurs in a text. -/
def occurs (needle s : List Char) : Bool := (cutAtText needle s).isSome

/-- Whether a text starts with another. -/
def startsWith (start s : List Char) : Bool := (afterStart? start s).isSome

/-- Whether a text ends with another. -/
def endsWith (ending s : List Char) : Bool := startsWith ending.reverse s.reverse

/-- What remains of a text before a given ending. -/
def beforeEnd? (ending s : List Char) : Option (List Char) :=
  (afterStart? ending.reverse s.reverse).map List.reverse

end CommitLint.Text
