import CommitLint.Armor
import CommitLint.Base64

/-!
# Why an envelope is refused

A signature comes in an envelope of text. Each way in which an envelope can be wrong has a stable
code, a wording and a piece of advice.
-/

namespace CommitLint.Envelope

/-- Why some bytes do not begin with a packet. -/
inductive PacketFault where
  | noPayload
  | notATag (byte : UInt8)
  | truncated
  | reservedTag
  deriving DecidableEq, Repr

/-- Why some text is not the Base64 of a blob. -/
inductive BlobFault where
  | nothingBetweenMarkers
  | emptyBlob
  | notBase64 (fault : Base64.Fault)
  deriving DecidableEq, Repr

/-- Why an envelope is refused. -/
inductive Fault where
  | empty
  | unknownFormat
  | missingEnd
  | badArmor (fault : Armor.Fault)
  | wrongBlockType (blockType : String)
  | noPacket (fault : PacketFault)
  | badBlob (fault : BlobFault)
  | missingMagic
  | tooShort (length : Nat)
  deriving DecidableEq, Repr

/-- The digit of a number below sixteen. -/
def hexDigit (n : Nat) : Char := "0123456789abcdef".toList.getD n '0'

/-- The two hexadecimal digits of a byte. -/
def hexByte (b : UInt8) : String := .ofList [hexDigit (b.toNat / 16), hexDigit (b.toNat % 16)]

/-- The wording of a packet fault. -/
def PacketFault.message : PacketFault → String
  | .noPayload => "payload is empty"
  | .notATag byte => s!"first byte 0x{hexByte byte} is not a packet tag"
  | .truncated => "truncated packet header"
  | .reservedTag => "reserved packet tag 0"

/-- The wording of a blob fault. -/
def BlobFault.message : BlobFault → String
  | .nothingBetweenMarkers => "no content between markers"
  | .emptyBlob => "empty signature blob"
  | .notBase64 fault => fault.message

/-- The stable code of a fault. -/
def Fault.code : Fault → String
  | .empty => "empty"
  | .unknownFormat => "unknown_format"
  | .missingEnd => "missing_end_marker"
  | .badArmor .missingEnd => "missing_end_marker"
  | .badArmor .checksumMismatch => "checksum_mismatch"
  | .badArmor _ => "malformed_armor"
  | .wrongBlockType _ => "wrong_block_type"
  | .noPacket _ => "no_packet"
  | .badBlob _ => "invalid_base64"
  | .missingMagic => "missing_sshsig_prefix"
  | .tooShort _ => "too_short"

/-- The wording of a fault in an armored block. The decoder of armored data is not part of this
program: `explain` tells what it says about a block that it cannot read. -/
def armorMessage (explain : String → String) : Armor.Fault → String
  | .noBegin => "malformed armor: no BEGIN armor line"
  | .unreadableBegin => "malformed armor: unreadable BEGIN line"
  | .endMismatch blockType =>
    s!"malformed armor: END line does not match BEGIN type '{blockType}'"
  | .missingEnd => "signature has a BEGIN marker but no matching END marker"
  | .undecodable block => s!"malformed armor: {explain block}"
  | .checksumMismatch => "armor checksum does not match the payload"
  | .emptyBody => "malformed armor: empty armor body"

/-- The wording of a fault. -/
def Fault.message (explain : String → String) : Fault → String
  | .empty => "signature is empty"
  | .unknownFormat => "signature is neither a PGP nor an SSH signature"
  | .missingEnd => "signature has a BEGIN marker but no matching END marker"
  | .badArmor fault => armorMessage explain fault
  | .wrongBlockType blockType =>
    s!"armor block type is '{blockType}', expected 'PGP SIGNATURE'"
  | .noPacket fault => s!"no parseable packet: {fault.message}"
  | .badBlob fault => s!"content is not valid base64: {fault.message}"
  | .missingMagic => "decoded blob does not start with the SSHSIG prefix"
  | .tooShort length => s!"decoded blob is {length} bytes, shorter than the minimum of 50"

/-- What to do about a truncated signature. -/
def truncatedHelp : String :=
  "The signature is truncated; re-sign the commit with 'git commit --amend -S'."

/-- What to do about a fault. -/
def Fault.help : Fault → String
  | .empty => "Sign the commit with 'git commit -S'."
  | .unknownFormat => "Use a GPG or SSH signing key (git config gpg.format openpgp|ssh)."
  | .missingEnd => truncatedHelp
  | .badArmor .missingEnd => truncatedHelp
  | .badArmor _ => "The PGP armor is corrupted; re-sign the commit with 'git commit --amend -S'."
  | .wrongBlockType _ =>
    "The armored block is not a signature; check that gpg is producing detached signatures."
  | .noPacket _ =>
    "The PGP payload holds no readable packet; re-sign with a working gpg installation."
  | .badBlob _ => "The signature body is not valid base64; re-sign the commit."
  | .missingMagic =>
    "The SSH signature blob is corrupted or truncated; re-sign with 'git commit --amend -S'."
  | .tooShort _ =>
    "The SSH signature blob is corrupted or truncated; re-sign with 'git commit --amend -S'."

end CommitLint.Envelope
