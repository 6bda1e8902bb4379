import CommitLint.Envelope.Fault

/-!
# Packet tags

The first byte of a packet has its top bit set and names the kind of packet in one of two formats.
-/

namespace CommitLint.Envelope

/-- The tag in a first byte: its low six bits in the new format, four bits above the two low ones in
the old one. -/
def tagOfByte (b : UInt8) : Nat :=
  if 64 ≤ b.toNat % 128 then b.toNat % 64 else b.toNat / 4 % 16

/-- The tag of the first packet in a payload. Tag zero is reserved. -/
def firstPacketTag : List UInt8 → Except PacketFault Nat
  | [] => .error .noPayload
  | b :: rest =>
    if b.toNat < 128 then .error (.notATag b)
    else if rest.isEmpty then .error .truncated
    else if tagOfByte b = 0 then .error .reservedTag
    else .ok (tagOfByte b)

end CommitLint.Envelope
