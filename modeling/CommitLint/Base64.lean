/-!
# Base64

The standard alphabet with padding. Decoding accepts exactly what encoding produces: every group of
four is complete, padding stands only at the end, and the bits that no byte uses are zero. What is
refused is refused for a stated reason, at a stated offset.
-/

namespace CommitLint.Base64

/-- Why a text is no Base64. Offsets count bytes from zero. -/
inductive Fault where
  | invalidSymbol (byte : UInt8) (offset : Nat)
  | invalidLength (length : Nat)
  | invalidPadding
  | invalidLastSymbol (byte : UInt8) (offset : Nat)
  deriving DecidableEq, Repr

/-- The wording of a fault. -/
def Fault.message : Fault → String
  | .invalidSymbol byte offset => s!"Invalid symbol {byte.toNat}, offset {offset}."
  | .invalidLength length => s!"Invalid input length: {length}"
  | .invalidPadding => "Invalid padding"
  | .invalidLastSymbol byte offset => s!"Invalid last symbol {byte.toNat}, offset {offset}."

/-- The byte that fills up the last group: an equals sign. -/
def pad : UInt8 := 61

/-- The six bits that a symbol stands for. -/
def value? (b : UInt8) : Option Nat :=
  let n := b.toNat
  if 65 ≤ n ∧ n ≤ 90 then some (n - 65)
  else if 97 ≤ n ∧ n ≤ 122 then some (n - 71)
  else if 48 ≤ n ∧ n ≤ 57 then some (n + 4)
  else if n = 43 then some 62
  else if n = 47 then some 63
  else none

/-- The symbol that stands for six bits. -/
def symbol (v : Nat) : UInt8 :=
  if v < 26 then UInt8.ofNat (v + 65)
  else if v < 52 then UInt8.ofNat (v + 71)
  else if v < 62 then UInt8.ofNat (v - 4)
  else if v = 62 then 43
  else 47

/-- The symbols for some bytes, with padding. -/
def encode : List UInt8 → List UInt8
  | [] => []
  | [a] => [symbol (a.toNat / 4), symbol (a.toNat % 4 * 16), pad, pad]
  | [a, b] =>
    [symbol (a.toNat / 4), symbol (a.toNat % 4 * 16 + b.toNat / 16),
      symbol (b.toNat % 16 * 4), pad]
  | a :: b :: c :: rest =>
    symbol (a.toNat / 4) :: symbol (a.toNat % 4 * 16 + b.toNat / 16) ::
      symbol (b.toNat % 16 * 4 + c.toNat / 64) :: symbol (c.toNat % 64) :: encode rest

/-- The bytes that a sequence of six-bit values holds; bits that fill no byte are dropped. -/
def bytes : List Nat → List UInt8
  | a :: b :: c :: d :: rest =>
    UInt8.ofNat (a * 4 + b / 16) :: UInt8.ofNat (b % 16 * 16 + c / 4) ::
      UInt8.ofNat (c % 4 * 64 + d) :: bytes rest
  | [a, b, c] => [UInt8.ofNat (a * 4 + b / 16), UInt8.ofNat (b % 16 * 16 + c / 4)]
  | [a, b] => [UInt8.ofNat (a * 4 + b / 16)]
  | _ => []

/-- The values of symbols that may hold no padding, the first of them at `offset`. -/
def readSymbols (offset : Nat) : List UInt8 → Except Fault (List Nat)
  | [] => .ok []
  | b :: bs =>
    match value? b with
    | none => .error (.invalidSymbol b offset)
    | some v => (readSymbols (offset + 1) bs).map (v :: ·)

/-- The values in the last group, which starts at `start`, from its position `i` on, and the number
of padding bytes after them. Padding starts at the third position and runs to the end. -/
def readLast (start i : Nat) : List UInt8 → Except Fault (List Nat × Nat)
  | [] => .ok ([], 0)
  | b :: bs =>
    if b = pad then
      if 2 ≤ i ∧ bs.all (· == pad) then .ok ([], bs.length + 1)
      else .error (.invalidSymbol pad (start + i))
    else
      match value? b with
      | none => .error (.invalidSymbol b (start + i))
      | some v => (readLast start (i + 1) bs).map fun (vs, pads) => (v :: vs, pads)

/-- Whether the last of the values in a group has bits that no byte uses, and one of them is set. -/
def hasStrayBits : List Nat → Bool
  | [_, b] => b % 16 != 0
  | [_, _, c] => c % 4 != 0
  | _ => false

/-- The number of bytes in the last group of a text of `n` bytes. -/
def lastGroup (n : Nat) : Nat := if n = 0 then 0 else (n - 1) % 4 + 1

/-- A single byte after the last complete group that is neither a symbol nor padding. -/
def strayByte? (bs : List UInt8) : Option Fault :=
  match bs.getLast? with
  | none => none
  | some b =>
    if bs.length % 4 = 1 ∧ b ≠ pad ∧ (value? b).isNone then
      some (.invalidSymbol b (bs.length - 1))
    else none

/-- The bytes that a Base64 text stands for. -/
def decode (bs : List UInt8) : Except Fault (List UInt8) :=
  if bs.isEmpty then .ok []
  else
    match strayByte? bs with
    | some fault => .error fault
    | none => do
      let start := bs.length - lastGroup bs.length
      let whole ← readSymbols 0 (bs.take start)
      let (last, pads) ← readLast start 0 (bs.drop start)
      if last.length < 2 then .error (.invalidLength (start + last.length))
      else if (last.length + pads) % 4 ≠ 0 then .error .invalidPadding
      else if hasStrayBits last then
        .error (.invalidLastSymbol (symbol (last.getLastD 0)) (start + last.length - 1))
      else .ok (bytes (whole ++ last))

/-- The bytes of one group of four. -/
def decodeGroup? (a b c d : UInt8) : Option (List UInt8) := (decode [a, b, c, d]).toOption

end CommitLint.Base64
