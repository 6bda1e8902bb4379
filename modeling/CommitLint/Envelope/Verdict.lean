import CommitLint.Envelope.Packet
import CommitLint.Envelope.Ssh

/-!
# Judging an envelope

A signature is told by its markers to be of one of two kinds, and then checked as that kind. Nothing
is verified here: a sound envelope may hold a signature of anybody, or of nothing.
-/

namespace CommitLint.Envelope

open Text

/-- The kinds of signature. -/
inductive Kind where
  | gpg
  | ssh
  | unknown
  deriving DecidableEq, Repr

/-- The name of a kind. -/
def Kind.name : Kind → String
  | .gpg => "gpg"
  | .ssh => "ssh"
  | .unknown => "unknown"

/-- The marker before a PGP signature. -/
def pgpBegin : List Char := "-----BEGIN PGP SIGNATURE-----".toList

/-- The kind of a signature, told by its markers. A PGP marker goes before all others. -/
def classify (signature : List Char) : Kind :=
  if occurs pgpBegin signature then .gpg
  else if occurs sshBegin signature || isShorthand signature then .ssh
  else .unknown

/-- Check that what was decoded is a signature that begins with a packet. -/
def checkBlock (decoded : Except Armor.Fault Armor.Block) : Except Fault Unit := do
  let block ← decoded.mapError .badArmor
  if block.isSignature then
    discard <| (firstPacketTag block.data).mapError .noPacket
  else .error (.wrongBlockType block.blockType)

/-- Check that a text holds a block with a signature packet. -/
def checkPgp (signature : List Char) : Except Fault Unit := checkBlock (Armor.decode signature)

/-- The kind of an envelope, and what is wrong with it. -/
structure Verdict where
  kind : Kind
  fault : Option Fault
  deriving DecidableEq, Repr

/-- The fault of a failed check. -/
def faultOf : Except Fault Unit → Option Fault
  | .ok () => none
  | .error fault => some fault

/-- Check an envelope as the kind that its markers tell. -/
def checkAs (signature : List Char) : Kind → Except Fault Unit
  | .gpg => checkPgp signature
  | .ssh =>
    if occurs sshBegin signature then checkArmoredSsh signature else checkShorthand signature
  | .unknown => .error .unknownFormat

/-- Judge an envelope. -/
def judge (signature : List Char) : Verdict :=
  if isBlankText signature then ⟨.unknown, some .empty⟩
  else ⟨classify signature, faultOf (checkAs signature (classify signature))⟩

end CommitLint.Envelope
