import CommitLint.Toml.Draft
import CommitLint.Toml.Scalar

/-!
# TOML documents

Reading a document: lines of keys and values, and headers that say to which table the lines below
them belong. Any fault makes the whole document unreadable.
-/

namespace CommitLint.Toml

open Text

/-- The number of keys in a dotted key, and of values within values, that is too large. -/
def nestingLimit : Nat := 80

/-! ### Keys -/

/-- Whether a character may stand in a key without quotes. -/
def isBareKeyChar (c : Char) : Bool := isNameChar c || c == '-'

/-- One key, with the spaces around it. -/
def readKey : Reader String := fun s => do
  let s := skipSpaces s
  let (cs, rest) ←
    if s.head?.any isBareKeyChar then
      some (s.takeWhile isBareKeyChar, s.dropWhile isBareKeyChar)
    else readShortText s
  some (.ofList cs, skipSpaces rest)

/-- The keys after a first one, each after a dot; `fuel` bounds their number. -/
def readMoreKeys : Nat → Reader (List String)
  | 0, _ => none
  | fuel + 1, s =>
    match s with
    | '.' :: rest => do
      let (key, rest) ← readKey rest
      let (keys, rest) ← readMoreKeys fuel rest
      some (key :: keys, rest)
    | _ => some ([], s)

/-- A dotted key: the keys of the tables on its way, and its last key. -/
def readPath : Reader (List String × String) := fun s => do
  let (first, rest) ← readKey s
  let (more, rest) ← readMoreKeys (nestingLimit - 1) rest
  some (((first :: more).dropLast, (first :: more).getLastD first), rest)

/-! ### Values -/

/-- What follows a comment; the mark that opens it has been read. -/
def skipComment (s : List Char) : List Char := s.dropWhile isPrintable

/-- What follows spaces, line ends and comments, of which each takes one of the `fuel`. -/
def skipTrivia : Nat → List Char → Option (List Char)
  | 0, _ => none
  | fuel + 1, s =>
    match skipSpaces s with
    | '#' :: rest => (afterNewline? (skipComment rest)).bind (skipTrivia fuel)
    | rest =>
      match afterNewline? rest with
      | some rest => skipTrivia fuel rest
      | none => some rest

/-- The rest of an array, whose items are read by `item`. -/
def readItems (item : Reader Value) : Nat → Reader (List Value)
  | 0, _ => none
  | fuel + 1, s => do
    match ← skipTrivia (s.length + 1) s with
    | ']' :: rest => some ([], rest)
    | s => do
      let (v, rest) ← item s
      match ← skipTrivia (rest.length + 1) rest with
      | ',' :: rest => do
        let (vs, rest) ← readItems item fuel rest
        some (v :: vs, rest)
      | ']' :: rest => some ([v], rest)
      | _ => none

/-- A dotted key, an equals sign and a value. -/
def readPair (item : Reader Value) : Reader ((List String × String) × Value) := fun s => do
  let (path, rest) ← readPath s
  let (v, rest) ← item (skipSpaces (← afterStart? ['='] rest))
  some ((path, v), rest)

/-- The rest of an inline table, added to the entries so far. A comma is followed by another
entry. -/
def readPairs (item : Reader Value) :
    Nat → List (String × Draft) → Reader (List (String × Draft))
  | 0, _, _ => none
  | fuel + 1, entries, s => do
    let (((path, key), v), rest) ← readPair item s
    let entries ← Draft.insertDotted key v path entries
    match skipSpaces rest with
    | ',' :: rest => readPairs item fuel entries rest
    | '}' :: rest => some (entries, rest)
    | _ => none

/-- A value, within which values may be nested to some depth. -/
def readValue : Nat → Reader Value
  | 0, s => readScalar s
  | depth + 1, s =>
    match s with
    | '[' :: rest =>
      (readItems (readValue depth) (rest.length + 1) rest).map fun (vs, rest) => (.array vs, rest)
    | '{' :: rest =>
      match skipSpaces rest with
      | '}' :: rest => some (.table [], rest)
      | rest =>
        (readPairs (readValue depth) (rest.length + 1) [] rest).map fun (entries, rest) =>
          (.table (Draft.finishEntries entries), rest)
    | _ => readScalar s

/-! ### Lines -/

/-- What follows the end of a line: perhaps a comment, and a line end or the end of the text. -/
def afterLine? (s : List Char) : Option (List Char) :=
  let rest :=
    match skipSpaces s with
    | '#' :: rest => skipComment rest
    | rest => rest
  if rest.isEmpty then some [] else afterNewline? rest

/-- A document so far: its tables, and the keys of the header above the next line. -/
structure Progress where
  entries : List (String × Draft) := []
  header : List String := []

/-- Read one line that is not blank: a header of a table, a header of an array of tables, or a key
with its value. -/
def readLine (p : Progress) : Reader Progress := fun s =>
  match s with
  | '[' :: '[' :: rest => do
    let ((path, key), rest) ← readPath rest
    let rest ← afterLine? (← afterStart? "]]".toList rest)
    some (⟨← Draft.atPath (Draft.openElement key) path p.entries, path ++ [key]⟩, rest)
  | '[' :: rest => do
    let ((path, key), rest) ← readPath rest
    let rest ← afterLine? (← afterStart? [']'] rest)
    some (⟨← Draft.atPath (Draft.openTable key) path p.entries, path ++ [key]⟩, rest)
  | _ => do
    let (((path, key), v), rest) ← readPair (readValue (nestingLimit - 1)) s
    let rest ← afterLine? rest
    let entries ← Draft.atPath (Draft.insertDotted key v path) p.header p.entries
    some ({ p with entries := entries }, rest)

/-- Read lines, at most `fuel` of them, to the end of the text. -/
def readLines : Nat → Progress → List Char → Option Progress
  | 0, _, _ => none
  | fuel + 1, p, s =>
    match skipSpaces s with
    | [] => some p
    | '#' :: rest => (afterLine? ('#' :: rest)).bind (readLines fuel p)
    | rest =>
      match afterNewline? rest with
      | some rest => readLines fuel p rest
      | none => (readLine p rest).bind fun (p, rest) => readLines fuel p rest

/-- The text without a byte order mark at its beginning. -/
def dropByteOrderMark : List Char → List Char
  | '\uFEFF' :: s => s
  | s => s

/-- The entries of a document. -/
def readDocument (text : String) : Option (List (String × Value)) :=
  let s := dropByteOrderMark text.toList
  (readLines (s.length + 1) {} s).map fun p => Draft.finishEntries p.entries

end CommitLint.Toml
