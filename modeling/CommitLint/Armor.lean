import CommitLint.Base64
import CommitLint.Crc24
import CommitLint.Text.Find
import CommitLint.Text.Letter
import CommitLint.Text.Line
import CommitLint.Text.Utf8

/-!
# Armored data

Binary data between a line `-----BEGIN TYPE-----` and a line `-----END TYPE-----`: named headers, a
Base64 body, and perhaps a checksum. `firstBlock` cuts the first block out of a text, `dearmor`
reads one, and `decode` does both.
-/

namespace CommitLint.Armor

open Text

/-- Why a text holds no readable block. -/
inductive Fault where
  | noBegin
  | unreadableBegin
  | endMismatch (blockType : String)
  | missingEnd
  /-- The decoder cannot read the block, for another reason than the checksum. -/
  | undecodable (block : String)
  | checksumMismatch
  | emptyBody
  deriving DecidableEq, Repr

/-- A decoded block. -/
structure Block where
  /-- The text between `BEGIN` and the dashes. -/
  blockType : String
  isSignature : Bool
  data : List UInt8
  deriving DecidableEq, Repr

/-! ### Locating a block -/

/-- What opens the first line of a block. -/
def beginStart : List Char := "-----BEGIN ".toList

/-- What opens the last line of a block. -/
def endStart : List Char := "-----END ".toList

/-- What closes both lines. -/
def dashes : List Char := "-----".toList

/-- The type that a first line names. -/
def typeOfLine? (line : List Char) : Option (List Char) :=
  (afterStart? beginStart line).bind (beforeEnd? dashes ·)

/-- The last line of a block of a given type. -/
def endLine (blockType : List Char) : List Char := endStart ++ blockType ++ dashes

/-- The type and the text of the first block, from its first line through the end of its last. -/
def firstBlock (text : List Char) : Except Fault (List Char × List Char) :=
  match cutAtText beginStart text with
  | none => .error .noBegin
  | some (_, after) =>
    let rest := beginStart ++ after
    match typeOfLine? (trim ((lines rest).headD [])) with
    | none => .error .unreadableBegin
    | some blockType =>
      match cutAtText (endLine blockType) rest with
      | some (before, _) => .ok (blockType, before ++ endLine blockType)
      | none =>
        if occurs endStart rest then .error (.endMismatch (.ofList blockType))
        else .error .missingEnd

/-! ### Reading a block -/

/-- The types of block that can be read. A part of a message has a number, and perhaps the number of
parts. -/
inductive BlockKind where
  | named (name : String)
  | messagePart (part total : Nat)
  deriving DecidableEq, Repr

/-- The kind of a detached signature. -/
def signatureKind : BlockKind := .named "PGP SIGNATURE"

/-- The kind of a signed text, which has headers of its own. -/
def signedTextKind : BlockKind := .named "PGP SIGNED MESSAGE"

/-- The names of the kinds that have no number. No name is the beginning of a later one. -/
def kindNames : List String :=
  ["PGP PUBLIC KEY BLOCK", "PGP PRIVATE KEY BLOCK", "PGP MESSAGE", "PGP SIGNATURE",
    "PGP ARMORED FILE", "PGP SIGNED MESSAGE", "RSA PUBLIC KEY", "DSA PUBLIC KEY",
    "EC PUBLIC KEY", "PUBLIC KEY", "OPENSSH PUBLIC KEY", "RSA PRIVATE KEY", "DSA PRIVATE KEY",
    "EC PRIVATE KEY", "PRIVATE KEY", "OPENSSH PRIVATE KEY"]

/-- The number that some digits write. -/
def ofDigits (ds : List Char) : Nat := ds.foldl (fun n d => n * 10 + (d.toNat - 48)) 0

/-- A number of at least one digit that fits into 64 bits, and what follows it. -/
def number? (s : List Char) : Option (Nat × List Char) :=
  let ds := s.takeWhile isDigitAscii
  if ds.isEmpty ∨ 0x10000000000000000 ≤ ofDigits ds then none
  else some (ofDigits ds, s.dropWhile isDigitAscii)

/-- The part and the total of a message in parts, and what follows them. -/
def messagePart? (s : List Char) : Option (BlockKind × List Char) := do
  let (part, rest) ← number? (← afterStart? "PGP MESSAGE, PART ".toList s)
  match (afterStart? ['/'] rest).bind number? with
  | some (total, rest) => some (.messagePart part total, rest)
  | none => some (.messagePart part 0, rest)

/-- The kind that a text begins with, and what follows it. -/
def kind? (s : List Char) : Option (BlockKind × List Char) :=
  match messagePart? s with
  | some found => some found
  | none => kindNames.findSome? fun name =>
      (afterStart? name.toList s).map fun rest => (.named name, rest)

/-- What follows a line end. -/
def afterLineEnd? : List Char → Option (List Char)
  | '\n' :: s => some s
  | '\r' :: '\n' :: s => some s
  | _ => none

/-- What follows all line ends. -/
def skipLineEnds : List Char → List Char
  | '\n' :: s => skipLineEnds s
  | '\r' :: '\n' :: s => skipLineEnds s
  | s => s

/-- The kind that the first line names, and what follows the line. -/
def beginLine? (s : List Char) : Option (BlockKind × List Char) := do
  let (kind, rest) ← kind? (← afterStart? beginStart s)
  some (kind, ← afterLineEnd? (← afterStart? dashes rest))

/-- What follows the first occurrence of a mark, if something stands before it. -/
def afterKey? (mark s : List Char) : Option (List Char) :=
  match cutAtText mark s with
  | some (_ :: _, after) => some after
  | _ => none

/-- Whether a character can stand within a line. -/
def isWithinLine (c : Char) : Bool := c != '\n' && c != '\r'

/-- What follows one header. Its name runs, over any line ends, to a colon that ends a line, or else
to the first colon before a space, whose value is the rest of the line. -/
def afterHeader? (s : List Char) : Option (List Char) :=
  match afterKey? ":\r\n".toList s with
  | some rest => some rest
  | none =>
    match afterKey? ":\n".toList s with
    | some rest => some rest
    | none => (afterKey? ": ".toList s).bind fun rest => afterLineEnd? (rest.dropWhile isWithinLine)

/-- What follows as many headers as can be read, at most `limit` of them. -/
def skipHeadersUpTo : Nat → List Char → List Char
  | 0, s => s
  | limit + 1, s =>
    match afterHeader? s with
    | none => s
    | some rest => skipHeadersUpTo limit rest

/-- What follows the headers. Each header has a character, so there are no more than characters. -/
def skipHeaders (s : List Char) : List Char := skipHeadersUpTo s.length s

/-- Whether a character is a space or a tab. -/
def isSpaceOrTab (c : Char) : Bool := c == ' ' || c == '\t'

/-- What follows a line of spaces and tabs only. -/
def afterEmptyLine? (s : List Char) : Option (List Char) := afterLineEnd? (s.dropWhile isSpaceOrTab)

/-- What follows as many empty lines as there are, at most `limit` of them. -/
def skipEmptyLinesUpTo : Nat → List Char → List Char
  | 0, s => s
  | limit + 1, s =>
    match afterEmptyLine? s with
    | none => s
    | some rest => skipEmptyLinesUpTo limit rest

/-- What follows the empty lines. -/
def skipEmptyLines (s : List Char) : List Char := skipEmptyLinesUpTo s.length s

/-- Whether a character is an ASCII letter or digit. -/
def isHashNameChar (c : Char) : Bool := isCapitalAscii c || isSmallAscii c || isDigitAscii c

/-- Whether a text is a list of names, separated by commas, or nothing. -/
def isHashList (s : List Char) : Bool :=
  s.isEmpty || (pieces ',' s).all fun name => !name.isEmpty && name.all isHashNameChar

/-- What follows a line that names the hashes of a signed text. -/
def afterHashLine? (s : List Char) : Option (List Char) := do
  let rest ← afterStart? "Hash: ".toList s
  if isHashList (rest.takeWhile isWithinLine) then afterLineEnd? (rest.dropWhile isWithinLine)
  else none

/-- What follows as many lines of hashes as there are, at most `limit` of them. -/
def skipHashLinesUpTo : Nat → List Char → List Char
  | 0, s => s
  | limit + 1, s =>
    match afterHashLine? s with
    | none => s
    | some rest => skipHashLinesUpTo limit rest

/-- What follows the headers of a block, and the empty lines after them. -/
def afterHeaders? (kind : BlockKind) (s : List Char) : Option (List Char) :=
  if kind = signedTextKind then
    (afterEmptyLine? (skipHashLinesUpTo s.length s)).map skipEmptyLines
  else some (skipEmptyLines (skipHeaders s))

/-- The byte of a character of the body: a symbol or padding. -/
def bodyByte? (c : Char) : Option UInt8 :=
  if isCapitalAscii c || isSmallAscii c || isDigitAscii c || c == '+' || c == '/' || c == '=' then
    some (UInt8.ofNat c.toNat)
  else none

/-- Whether a character may stand in the body. -/
def isBodyChar (c : Char) : Bool := (bodyByte? c).isSome || c == '\n' || c == '\r'

/-- The bytes of the complete groups of four at the beginning, and what follows them. -/
def readGroups : List Char → List UInt8 × List Char
  | a :: b :: c :: d :: rest =>
    match (do
      Base64.decodeGroup? (← bodyByte? a) (← bodyByte? b) (← bodyByte? c) (← bodyByte? d)) with
    | none => ([], a :: b :: c :: d :: rest)
    | some bs => (bs ++ (readGroups rest).1, (readGroups rest).2)
  | s => ([], s)

/-- The bytes of a body, and what follows it. The line ends within it do not count. -/
def readBody (s : List Char) : List UInt8 × List Char :=
  let body := (s.takeWhile isBodyChar).filter isWithinLine
  ((readGroups body).1, (readGroups body).2 ++ s.dropWhile isBodyChar)

/-- What follows the dashes at the beginning of the last line. -/
def afterDashes? (s : List Char) : Option (List Char) := afterStart? "--".toList (skipLineEnds s)

/-- The checksum before the last line, if one is written, and what follows. -/
def readChecksum? (s : List Char) : Option (Option (List Char) × List Char) :=
  match s with
  | '=' :: rest =>
    match if (rest.take 4).length = 4 then afterDashes? (rest.drop 4) else none with
    | some after => some (some (rest.take 4), after)
    | none => (afterDashes? (s.dropWhile (· == '='))).map (none, ·)
  | _ => (afterDashes? s).map (none, ·)

/-- The number that a written checksum stands for; bytes that are not written are zero. -/
def checksumValue? (written : List Char) : Option Nat :=
  match Base64.decode (encode written) with
  | .ok [a] => some (a.toNat * 0x10000)
  | .ok [a, b] => some (a.toNat * 0x10000 + b.toNat * 0x100)
  | .ok [a, b, c] => some (a.toNat * 0x10000 + b.toNat * 0x100 + c.toNat)
  | _ => none

/-- What the last line of a block says: the checksum, and the kind. -/
def readFooter? (s : List Char) : Option (Option Nat × BlockKind) := do
  let (written, rest) ← readChecksum? s
  let (kind, rest) ← kind? (← afterStart? "---END ".toList rest)
  let _ ← afterStart? dashes rest
  match written with
  | none => some (none, kind)
  | some symbols => some (some (← checksumValue? symbols), kind)

/-- The kind and the bytes of a block. -/
def dearmor (block : List Char) : Except Fault (BlockKind × List UInt8) :=
  match (do
    let (kind, rest) ← beginLine? block
    let (data, rest) := readBody (← afterHeaders? kind rest)
    let (checksum, last) ← readFooter? rest
    if last = kind then some (kind, data, checksum) else none) with
  | none => .error (.undecodable (.ofList block))
  | some (kind, data, checksum) =>
    if checksum.isSome ∧ checksum ≠ some (Crc24.checksum data) then .error .checksumMismatch
    else .ok (kind, data)

/-- A block that was found, with the type that its first line names. -/
def blockOf (blockType block : List Char) : Except Fault Block := do
  let (kind, data) ← dearmor block
  if data.isEmpty then .error .emptyBody
  else .ok ⟨.ofList blockType, kind = signatureKind, data⟩

/-- The first block of a text. -/
def decode (text : List Char) : Except Fault Block := do
  let (blockType, block) ← firstBlock text
  blockOf blockType block

end CommitLint.Armor
