import CommitLint.Collaborator
import CommitLint.Text.Find
import CommitLint.Text.Line

/-!
# What a verification says

Git verifies a signature with whatever keys the user trusts and tells the outcome on its error
stream. A signer is named only if git succeeded and a line of the stream names a good signature.
-/

namespace CommitLint.Verification

open Text

/-- What the lines about a good signature start with. -/
def goodGpgStart : List Char := "[GNUPG:] GOODSIG ".toList

/-- What the lines about the fingerprint of a valid signature start with. -/
def validGpgStart : List Char := "[GNUPG:] VALIDSIG ".toList

/-- What the lines about a good signature by an SSH key start with. -/
def goodSshStart : List Char := "Good \"git\" signature for ".toList

/-- What follows a beginning in a line, blanks around the line aside. -/
def field? (start line : List Char) : Option (List Char) := afterStart? start (trim line)

/-- The name and the mail address of a user. The address stands after the last space and opening
bracket. -/
def splitUser (user : List Char) : List Char × Option (List Char) :=
  match cutAtLastText " <".toList user with
  | some (name, address) => (trim name, some (dropEndWhile (· == '>') address))
  | none => (trim user, none)

/-- The first word after the beginning of a line about a valid signature. -/
def fingerprint? (line : List Char) : Option (List Char) :=
  (field? validGpgStart line).bind fun rest => (words rest).head?

/-- The signer whom the lines about PGP signatures name. A fingerprint is preferred to the key. -/
def gpgSigner? (ls : List (List Char)) : Option Signer := do
  let rest ← ls.findSome? (field? goodGpgStart ·)
  let (key, user) := (cutAt ' ' rest).getD (rest, [])
  let (name, address) := splitUser user
  some
    { name := .ofList name
      email := address.map .ofList
      keyId := some (.ofList ((ls.findSome? fingerprint?).getD key)) }

/-- What follows the last space of a text. -/
def lastWord (s : List Char) : List Char :=
  match cutAtLast ' ' s with
  | some (_, word) => word
  | none => s

/-- The signer whom the lines about SSH signatures name: a principal, which may be a mail address,
and the last word about the key. -/
def sshSigner? (ls : List (List Char)) : Option Signer := do
  let rest ← ls.findSome? (field? goodSshStart ·)
  let (principal, key) :=
    match cutAtText " with ".toList rest with
    | some (principal, key) => (principal, some (lastWord key))
    | none => (rest, none)
  some
    { name := .ofList principal
      email := if principal.contains '@' then some (.ofList principal) else none
      keyId := key.map .ofList }

/-- The signer whom some lines name. -/
def signer? (ls : List (List Char)) : Option Signer := (gpgSigner? ls).or (sshSigner? ls)

/-- What a status line says is wrong with a PGP signature. -/
def statusFault? (line : List Char) : Option VerifyFault :=
  match words line with
  | tag :: status :: rest =>
    if tag ≠ "[GNUPG:]".toList then none
    else if status = "BADSIG".toList then some .badSignature
    else if status = "NO_PUBKEY".toList ∨ status = "ERRSIG".toList then
      some (.unknownKey (.ofList (rest.headD [])))
    else none
  | _ => none

/-- What a text without status lines says is wrong. -/
def textFault (text : List Char) : VerifyFault :=
  if occurs "Signature verification failed".toList text then .badSignature
  else if occurs "No principal matched".toList text || occurs "allowedSignersFile".toList text then
    .unknownKey "no matching principal in gpg.ssh.allowedSignersFile"
  else if occurs "no signature found".toList text then .unavailable "no signature found"
  else if isBlankText text then .unavailable "unrecognised verifier output"
  else .unavailable (.ofList (trim text))

/-- The signer that a text on the error stream names, given whether git succeeded. -/
def readReply (success : Bool) (text : List Char) : VerifyReply :=
  let ls := lines text
  match if success then signer? ls else none with
  | some signer => .ok signer
  | none =>
    match ls.findSome? statusFault? with
    | some fault => .error fault
    | none => .error (textFault text)

/-- How running git ended: it was not found, or it wrote some bytes on its error stream. -/
inductive GitRun where
  | notFound
  | finished (success : Bool) (errors : List UInt8)
  deriving DecidableEq, Repr

/-- Verify a commit, when running git on it ends in a given way. A commit without a hash cannot be
verified, and no program takes an argument with a null character in it. -/
def verify (cancelled : Bool) (run : GitRun) (c : Commit) : VerifyReply :=
  if cancelled then .error .cancelled
  else if c.hash.isEmpty then .error (.unavailable "commit has no hash to verify")
  else if c.hash.contains '\x00' then
    .error (.unavailable "Git command failed: nul byte found in provided data")
  else
    match run with
    | .notFound =>
      .error (.unavailable "Git command failed: No such file or directory (os error 2)")
    | .finished success errors => readReply success (decodeLossy errors)

end CommitLint.Verification
