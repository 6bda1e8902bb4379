/-!
# UTF-8

Lengths and cuts that count bytes, and the decoding of bytes that replaces what is not well formed.
-/

namespace CommitLint.Text

/-- The number of bytes of a text in UTF-8. -/
def byteLength : List Char → Nat
  | [] => 0
  | c :: s => c.utf8Size + byteLength s

/-- The characters of a text up to byte `n`, if a character ends there or the text does before
it. -/
def takeBytes? : Nat → List Char → Option (List Char)
  | _, [] => some []
  | n, c :: s =>
    if n = 0 then some []
    else if c.utf8Size ≤ n then (takeBytes? (n - c.utf8Size) s).map (c :: ·)
    else none

/-- The character that stands for bytes that are no UTF-8. -/
def replacement : Char := '\uFFFD'

/-- The number of bytes that follow a leading byte, and the least and greatest first one of them;
none for a byte that leads no character of several bytes. -/
def leading? (b : UInt8) : Option (Nat × UInt8 × UInt8) :=
  if 0xC2 ≤ b && b ≤ 0xDF then some (1, 0x80, 0xBF)
  else if b == 0xE0 then some (2, 0xA0, 0xBF)
  else if b == 0xED then some (2, 0x80, 0x9F)
  else if 0xE1 ≤ b && b ≤ 0xEF then some (2, 0x80, 0xBF)
  else if b == 0xF0 then some (3, 0x90, 0xBF)
  else if 0xF1 ≤ b && b ≤ 0xF3 then some (3, 0x80, 0xBF)
  else if b == 0xF4 then some (3, 0x80, 0x8F)
  else none

/-- A character that has begun: its bits so far, the number of bytes still to come, and the bounds
of the next one. -/
structure Pending where
  bits : Nat
  missing : Nat
  least : UInt8
  greatest : UInt8

/-- A byte at a character boundary: a whole character, the start of one, or neither. -/
def beginChar (b : UInt8) : List Char × Option Pending :=
  if b < 0x80 then ([Char.ofNat b.toNat], none)
  else
    match leading? b with
    | none => ([replacement], none)
    | some (missing, least, greatest) =>
      ([], some ⟨b.toNat % (1 <<< (6 - missing)), missing, least, greatest⟩)

/-- The characters that bytes stand for. A sequence that breaks off is replaced as a whole, and the
byte that does not belong to it is read anew. -/
def decodeFrom : Option Pending → List UInt8 → List Char
  | none, [] => []
  | some _, [] => [replacement]
  | none, b :: bs => (beginChar b).1 ++ decodeFrom (beginChar b).2 bs
  | some p, b :: bs =>
    if p.least ≤ b && b ≤ p.greatest then
      let bits := p.bits * 64 + b.toNat % 64
      if p.missing = 1 then Char.ofNat bits :: decodeFrom none bs
      else decodeFrom (some ⟨bits, p.missing - 1, 0x80, 0xBF⟩) bs
    else replacement :: (beginChar b).1 ++ decodeFrom (beginChar b).2 bs

/-- The text of some bytes; each maximal beginning of a character that breaks off, and each byte
that begins none, becomes the replacement character. -/
def decodeLossy (bs : List UInt8) : List Char := decodeFrom none bs

/-- Whether some bytes are the UTF-8 of a text. -/
def isUtf8 : Option Pending → List UInt8 → Bool
  | p, [] => p.isNone
  | none, b :: bs =>
    (b < 0x80 || (leading? b).isSome) && isUtf8 (beginChar b).2 bs
  | some p, b :: bs =>
    p.least ≤ b && b ≤ p.greatest &&
      isUtf8 (if p.missing = 1 then none else some ⟨0, p.missing - 1, 0x80, 0xBF⟩) bs

/-- The UTF-8 of a text. -/
def encode (s : List Char) : List UInt8 := s.flatMap String.utf8EncodeChar

/-- The text of some bytes, when they are UTF-8. -/
def decode? (bs : List UInt8) : Option (List Char) :=
  if isUtf8 none bs then some (decodeLossy bs) else none

end CommitLint.Text
