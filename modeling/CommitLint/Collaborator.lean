import CommitLint.Commit
import CommitLint.Text.Casing

/-!
# Collaborators

Two rules ask somebody else: a repository, how far the branch is ahead of another, and a verifier,
who made a signature. A collaborator is a function from the number of earlier questions to an
answer, so it may be stateless, or read its answers off a list. A `Session` keeps the questions that
were asked, and whether work was cancelled.
-/

namespace CommitLint

open Text

/-- Why a repository did not count. -/
inductive AheadFault where
  | referenceNotFound (reference : String)
  | cancelled
  | other (message : String)
  deriving DecidableEq, Repr

/-- The wording of a fault of counting. -/
def AheadFault.message : AheadFault → String
  | .referenceNotFound reference => s!"reference '{reference}' not found"
  | .cancelled => "operation cancelled"
  | .other message => message

/-- Who made a signature. -/
structure Signer where
  name : String
  email : Option String := none
  keyId : Option String := none
  deriving DecidableEq, Repr, Inhabited

namespace Signer

/-- A signer in one line. -/
def text (s : Signer) : String :=
  match s.email with
  | some email => s!"{s.name} <{email}>"
  | none => s.name

/-- Whether an entry, blanks around it aside, is the name, the mail address or the key of a signer,
ignoring the case of ASCII letters. -/
def isNamedBy (s : Signer) (entry : String) : Bool :=
  let entry := trim entry.toList
  let same (field : String) : Bool := sameIgnoringAsciiCase field.toList entry
  same s.name || s.email.any same || s.keyId.any same

end Signer

/-- Why a verifier named no signer. -/
inductive VerifyFault where
  | badSignature
  | unknownKey (key : String)
  | cancelled
  | unavailable (reason : String)
  deriving DecidableEq, Repr

/-- The wording of a fault of verification. -/
def VerifyFault.message : VerifyFault → String
  | .badSignature => "bad signature"
  | .unknownKey key => s!"signing key is not known: {key}"
  | .cancelled => "verification cancelled"
  | .unavailable reason => s!"verification unavailable: {reason}"

/-- The number of commits that a branch is ahead, or why it is not known. -/
abbrev AheadReply := Except AheadFault Nat

/-- The signer of a commit, or why none is known. -/
abbrev VerifyReply := Except VerifyFault Signer

/-- Whom the rules may ask. The first argument of each is the number of earlier questions to it. -/
structure Collaborators where
  ahead : Option (Nat → String → AheadReply) := none
  verify : Option (Nat → Commit → VerifyReply) := none
  /-- What the decoder of armored data says about a block that it cannot read. -/
  explain : String → String := fun _ => ""

/-- The answers of a list, one for each question, the last one over and over. -/
def scripted {Question Reply : Type} (first : Reply) (more : List Reply) :
    Nat → Question → Reply :=
  fun asked _ => (first :: more).getD asked ((first :: more).getLastD first)

/-- A question to a collaborator. -/
inductive Call where
  | ahead (reference : String)
  | verify (hash : String)
  deriving DecidableEq, Repr

/-- Whether a question went to the repository. -/
def Call.isAhead : Call → Bool
  | .ahead _ => true
  | .verify _ => false

/-- Whether a question went to the verifier. -/
def Call.isVerify (c : Call) : Bool := !c.isAhead

/-- What has happened in a run: the questions asked, in order, and whether work was cancelled. -/
structure Session where
  cancelled : Bool := false
  calls : List Call := []
  deriving DecidableEq, Repr, Inhabited

namespace Session

/-- Ask the repository how far the branch is ahead of a reference. -/
def askAhead (s : Session) (ahead : Nat → String → AheadReply) (reference : String) :
    AheadReply × Session :=
  (ahead (s.calls.countP Call.isAhead) reference,
    { s with calls := s.calls ++ [.ahead reference] })

/-- Ask the verifier who signed a commit. -/
def askVerify (s : Session) (verify : Nat → Commit → VerifyReply) (c : Commit) :
    VerifyReply × Session :=
  (verify (s.calls.countP Call.isVerify) c, { s with calls := s.calls ++ [.verify c.hash] })

end Session

end CommitLint
