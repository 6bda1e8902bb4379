import CommitLint.Check.Conventional
import CommitLint.Collaborator
import CommitLint.Envelope.Verdict

/-!
# Signatures and signers

One rule looks at the envelope of a signature only. The other one also asks who made the signature,
and passes only if it gets the name of an allowed signer.
-/

namespace CommitLint.Check

open Text

/-- The code of a finding about an envelope. -/
def envelopeCode (kind : Envelope.Kind) (fault : Envelope.Fault) : Code :=
  if fault = .unknownFormat then .unknownSignatureFormat
  else
    match kind with
    | .gpg => .invalidGpgFormat
    | .ssh => .invalidSshFormat
    | .unknown => .unknownSignatureFormat

/-- The finding that a commit is not signed. -/
def unsigned (rule : Rule) : Finding where
  rule := rule
  code := .missingSignature
  message := "Commit is not signed"

/-- The kind of an envelope that was judged to be sound, and otherwise what is wrong with it. -/
def ofVerdict (explain : String → String) (rule : Rule) (verdict : Envelope.Verdict) :
    Except Finding Envelope.Kind :=
  match verdict.fault with
  | none => .ok verdict.kind
  | some fault =>
    .error
      { rule := rule
        code := envelopeCode verdict.kind fault
        message := s!"Invalid {verdict.kind.name} signature: {fault.message explain}"
        help := fault.help
        context := .ofList [("reason", fault.code)] }

/-- The kind of the envelope of a commit if it is sound, and otherwise what is wrong with it. -/
def checkEnvelope (explain : String → String) (rule : Rule) (c : Commit) :
    Except Finding Envelope.Kind :=
  if isBlankText c.signature.toList then .error (unsigned rule)
  else ofVerdict explain rule (Envelope.judge c.signature.toList)

/-- The kinds of signature that the settings allow. -/
def allowedKinds (settings : Settings.Signature) : List String :=
  settings.allowedTypes.map fun t => .ofList (lower (trim t.toList))

/-- The outcome for a commit whose envelope has been checked. -/
def signatureOutcome (settings : Settings.Signature) (c : Commit) :
    Except Finding Envelope.Kind → Outcome
  | .error finding =>
    { rule := .signature
      findings := [finding]
      details := .ofList [("signature_type", (Envelope.classify c.signature.toList).name)] }
  | .ok kind =>
    let allowed := allowedKinds settings
    { rule := .signature
      details := .ofList [("signature_type", kind.name)]
      findings :=
        if allowed.isEmpty || allowed.contains kind.name then []
        else
          [{ rule := .signature
             code := .disallowedSignatureType
             message :=
              s!"{String.ofList (upper kind.name.toList)} signatures are not allowed"
             context :=
              .ofList [("actual", kind.name), ("expected", commaList "," allowed)] }] }

/-- The commit has a signature in a sound envelope of an allowed kind. -/
def signature (explain : String → String) (settings : Settings.Signature) (c : Commit) : Outcome :=
  signatureOutcome settings c (checkEnvelope explain .signature c)

/-- The outcome of a verification that was cancelled. -/
def verificationCancelled : Outcome :=
  .failure
    { rule := .signedIdentity
      code := .cancelled
      message := "Signature verification was cancelled" }

/-- What is wrong with a signer. No allowed signers means that any signer will do. -/
def signerFindings (settings : Settings.Identity) (signer : Signer) : List Finding :=
  if settings.allowedSigners.isEmpty || settings.allowedSigners.any signer.isNamedBy then []
  else
    [{ rule := .signedIdentity
       code := .unauthorizedSigner
       message := s!"Signer '{signer.text}' is not an allowed signer"
       context :=
        .ofList
          [("actual", signer.text), ("expected", commaList "," settings.allowedSigners)] }]

/-- The outcome that follows from what a verifier said. -/
def signerOutcome (settings : Settings.Identity) : VerifyReply → Outcome
  | .error .cancelled => verificationCancelled
  | .error fault =>
    .failure
      { rule := .signedIdentity
        code := .verificationFailed
        message := s!"Signature verification failed: {fault.message}"
        context := .ofList [("reason", fault.message)] }
  | .ok signer =>
    { rule := .signedIdentity
      details :=
        .ofList
          ([("status", "verified"), ("signer", signer.text)] ++
            (signer.keyId.map (("key_id", ·))).toList)
      findings := signerFindings settings signer }

/-- The outcome for a commit whose envelope has been checked. The verifier is asked only about an
envelope that is sound. -/
def identityOutcome (settings : Settings.Identity) (team : Collaborators) (c : Commit)
    (s : Session) : Except Finding Envelope.Kind → Outcome × Session
  | .error finding => (.failure finding, s)
  | .ok _ =>
    match team.verify with
    | none => ({ rule := .signedIdentity, details := .ofList [("status", "skipped")] }, s)
    | some verify =>
      if s.cancelled then (verificationCancelled, s)
      else
        let (reply, s) := s.askVerify verify c
        (signerOutcome settings reply, s)

/-- The signature of the commit is verified to be that of an allowed signer. Without a verifier only
the envelope is checked. -/
def signedIdentity (settings : Settings.Identity) (team : Collaborators) (c : Commit)
    (s : Session) : Outcome × Session :=
  identityOutcome settings team c s (checkEnvelope team.explain .signedIdentity c)

end CommitLint.Check
