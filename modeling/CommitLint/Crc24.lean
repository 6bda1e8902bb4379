/-!
# The 24-bit checksum of armored data

A cyclic redundancy check over the polynomial 0x1864CFB that starts from 0xB704CE.
-/

namespace CommitLint.Crc24

/-- The checksum of no bytes. -/
def initial : Nat := 0xB704CE

/-- The polynomial by which the checksum is the remainder of a division. -/
def polynomial : Nat := 0x1864CFB

/-- Move a remainder up by one bit. -/
def shift (crc : Nat) : Nat :=
  let doubled := crc * 2
  if doubled < 0x1000000 then doubled else doubled ^^^ polynomial

/-- The checksum after one more byte. -/
def step (crc : Nat) (b : UInt8) : Nat := Nat.repeat shift 8 (crc ^^^ (b.toNat * 0x10000))

/-- The checksum of some bytes. -/
def checksum (bs : List UInt8) : Nat := bs.foldl step initial

end CommitLint.Crc24
