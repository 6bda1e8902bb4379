import CommitLint.Check.Signature
import CommitLint.Proofs.Envelope.Pgp
import CommitLint.Proofs.Envelope.Ssh
import CommitLint.Proofs.Fields
import CommitLint.Proofs.Text.Casing

/-!
# Signed by whom

The rule on signers passes only if everything that it depends on says so: the envelope, the state of
the run, the verifier, and the list of allowed signers (`Clears`). `FailsWith` lists what can be
missing, in the order in which it is looked for, and each of these failures is one finding with one
code (`findings_signedIdentity_of_failsWith`). Since one of the two always applies
(`clears_or_failsWith`), nothing passes by default. What becomes of a sound envelope follows from
the reply of the verifier (`FollowsVerification`).

Both rules on signatures report the same about an envelope that is refused, because the finding
depends on the rule in its label only (`checkEnvelope_of_not_accepted`).
-/

namespace CommitLint

open Text

/-! ### Allowed signers -/

/-- What a signer may be listed by: the name, the mail address and the key. -/
def Signer.labels (signer : Signer) : List String :=
  signer.name :: (signer.email.toList ++ signer.keyId.toList)

/-- An entry of a list of signers, blanks around it aside, is a label of a signer in some case. -/
def Signer.IsListedAs (signer : Signer) (entry : String) : Prop :=
  ∃ label ∈ signer.labels, List.Forall₂ SameButCase label.toList (trim entry.toList)

theorem Signer.isNamedBy_iff {signer : Signer} {entry : String} :
    signer.isNamedBy entry = true ↔ signer.IsListedAs entry := by
  simp only [isNamedBy, IsListedAs, labels, Bool.or_eq_true, sameIgnoringAsciiCase_iff,
    List.exists_mem_cons_iff, List.mem_append, Option.mem_toList, Option.any_eq_true, or_and_right,
    exists_or, or_assoc]

namespace Check

/-- The settings accept a signer: they list nobody, or the signer among others. -/
def Admits (settings : Settings.Identity) (signer : Signer) : Prop :=
  settings.allowedSigners = [] ∨ ∃ entry ∈ settings.allowedSigners, signer.IsListedAs entry

theorem signerFindings_eq_nil_iff {settings : Settings.Identity} {signer : Signer} :
    signerFindings settings signer = [] ↔ Admits settings signer := by
  rw [signerFindings, Admits]
  split
  · rename_i h
    refine iff_of_true rfl ?_
    simpa [Signer.isNamedBy_iff] using h
  · rename_i h
    refine iff_of_false (by simp) ?_
    simpa [Signer.isNamedBy_iff] using h

/-- The finding about a signer whom the settings do not accept. -/
def unauthorizedFinding (settings : Settings.Identity) (signer : Signer) : Finding :=
  { rule := .signedIdentity
    code := .unauthorizedSigner
    message := s!"Signer '{signer.text}' is not an allowed signer"
    context :=
      .ofList [("actual", signer.text), ("expected", commaList "," settings.allowedSigners)] }

theorem signerFindings_of_not_admits {settings : Settings.Identity} {signer : Signer}
    (h : ¬Admits settings signer) :
    signerFindings settings signer = [unauthorizedFinding settings signer] := by
  rw [← signerFindings_eq_nil_iff] at h
  rw [signerFindings] at h ⊢
  split at h
  · exact absurd rfl h
  · rename_i hnot
    rw [if_neg hnot, unauthorizedFinding]

/-! ### Replies of a verifier -/

/-- The finding about a signature that could not be verified, for a reason. -/
structure IsUnverified (reason : String) (f : Finding) : Prop where
  rule : f.rule = .signedIdentity
  code : f.code = .verificationFailed
  reason : f.context.get? "reason" = some reason

/-- An outcome tells who signed, and finds something exactly if the settings do not accept the
signer. -/
structure TellsSigner (settings : Settings.Identity) (signer : Signer) (o : Outcome) : Prop where
  rule : o.rule = .signedIdentity
  status : o.details.get? "status" = some "verified"
  name : signer.email = none → o.details.get? "signer" = some signer.name
  mail : ∀ email, signer.email = some email →
    o.details.get? "signer" = some s!"{signer.name} <{email}>"
  key : o.details.get? "key_id" = signer.keyId
  admitted : Admits settings signer → o.findings = []
  refused : ¬Admits settings signer → ∃ f, o.findings = [f] ∧ f.rule = .signedIdentity ∧
    f.code = .unauthorizedSigner ∧ f.context.get? "actual" = o.details.get? "signer"

/-- What the rule on signers says about a sound envelope, by what a verifier replies. -/
inductive FollowsVerification (settings : Settings.Identity) : VerifyReply → Outcome → Prop
  | verified {signer : Signer} {o : Outcome} : TellsSigner settings signer o →
      FollowsVerification settings (.ok signer) o
  | cancelled {o : Outcome} {f : Finding} : o.findings = [f] → f.code = .cancelled →
      FollowsVerification settings (.error .cancelled) o
  | badSignature {o : Outcome} {f : Finding} : o.findings = [f] →
      IsUnverified "bad signature" f → FollowsVerification settings (.error .badSignature) o
  | unknownKey {key : String} {o : Outcome} {f : Finding} : o.findings = [f] →
      IsUnverified s!"signing key is not known: {key}" f →
      FollowsVerification settings (.error (.unknownKey key)) o
  | unavailable {reason : String} {o : Outcome} {f : Finding} : o.findings = [f] →
      IsUnverified s!"verification unavailable: {reason}" f →
      FollowsVerification settings (.error (.unavailable reason)) o

theorem get?_signer_signerOutcome (settings : Settings.Identity) (signer : Signer) :
    (signerOutcome settings (.ok signer)).details.get? "signer" = some signer.text := by
  rw [signerOutcome, Fields.get?_ofList]
  cases signer.keyId <;> rfl

theorem tellsSigner (settings : Settings.Identity) (signer : Signer) :
    TellsSigner settings signer (signerOutcome settings (.ok signer)) where
  rule := rfl
  status := by
    rw [signerOutcome, Fields.get?_ofList]
    cases signer.keyId <;> rfl
  name h := by rw [get?_signer_signerOutcome, Signer.text, h]
  mail email h := by rw [get?_signer_signerOutcome, Signer.text, h]
  key := by
    rw [signerOutcome, Fields.get?_ofList]
    cases signer.keyId <;> rfl
  admitted h := signerFindings_eq_nil_iff.mpr h
  refused h := by
    refine ⟨_, signerFindings_of_not_admits h, rfl, rfl, ?_⟩
    rw [get?_signer_signerOutcome, unauthorizedFinding, Fields.get?_ofList]
    rfl

theorem isUnverified (reason : String) :
    IsUnverified reason
      { rule := .signedIdentity
        code := .verificationFailed
        message := s!"Signature verification failed: {reason}"
        context := .ofList [("reason", reason)] } where
  rule := rfl
  code := rfl
  reason := by
    rw [Fields.get?_ofList]
    rfl

/-- The outcome for a sound envelope follows from the reply. -/
theorem followsVerification (settings : Settings.Identity) (reply : VerifyReply) :
    FollowsVerification settings reply (signerOutcome settings reply) := by
  rcases reply with (_ | key | _ | reason) | signer
  · exact .badSignature rfl (isUnverified _)
  · exact .unknownKey rfl (isUnverified _)
  · exact .cancelled rfl rfl
  · exact .unavailable rfl (isUnverified _)
  · exact .verified (tellsSigner settings signer)

/-! ### Envelopes -/

/-- The finding of a rule about an envelope that is refused. -/
def refusedFinding (explain : String → String) (rule : Rule) (kind : Envelope.Kind)
    (fault : Envelope.Fault) : Finding :=
  { rule := rule
    code := envelopeCode kind fault
    message := s!"Invalid {kind.name} signature: {fault.message explain}"
    help := fault.help
    context := .ofList [("reason", fault.code)] }

/-- The verdict on the envelope of a commit. -/
def verdict (c : Commit) : Envelope.Verdict := Envelope.judge c.signature.toList

theorem fault_verdict_of_isBlankText {c : Commit} (h : isBlankText c.signature.toList) :
    (verdict c).fault = some .empty := by
  rw [verdict, Envelope.judge, if_pos h]

/-- Only an envelope of no kind has an unknown format. -/
theorem kind_of_judge_unknownFormat {text : List Char} {kind : Envelope.Kind}
    (h : Envelope.judge text = ⟨kind, some .unknownFormat⟩) : kind = .unknown := by
  by_cases hpgp : Envelope.pgpBegin <:+: text
  · obtain ⟨-, hrefuses⟩ := ((Envelope.judge_iff_of_pgpBegin hpgp).2 _ _).mp h
    cases hrefuses
  · rcases Envelope.isSound_or_refuses text with hsound | ⟨_, _, hrefuses⟩
    · rw [Envelope.judge_of_isSound hpgp hsound] at h
      cases h
    · rw [Envelope.judge_of_refuses hpgp hrefuses] at h
      cases h
      cases hrefuses with
      | armored _ _ hblob => cases hblob
      | shorthand _ _ hblob => cases hblob
      | neither => rfl

/-- The code of the finding about an envelope of some kind that is refused. -/
def refusedCode : Envelope.Kind → Code
  | .gpg => .invalidGpgFormat
  | .ssh => .invalidSshFormat
  | .unknown => .unknownSignatureFormat

theorem envelopeCode_of_judge {text : List Char} {kind : Envelope.Kind} {fault : Envelope.Fault}
    (h : Envelope.judge text = ⟨kind, some fault⟩) :
    envelopeCode kind fault = refusedCode kind := by
  -- One fault has a code of its own, whatever the kind, but then there is no kind.
  by_cases hfault : fault = .unknownFormat
  · subst hfault
    rw [kind_of_judge_unknownFormat h]
    rfl
  · cases kind <;> exact if_neg hfault

theorem not_isBlankText_of_judge {c : Commit} {kind : Envelope.Kind} {fault : Option Envelope.Fault}
    (h : Envelope.judge c.signature.toList = ⟨kind, fault⟩) (hkind : kind ≠ .unknown) :
    ¬isBlankText c.signature.toList := by
  intro hblank
  rw [Envelope.judge, if_pos hblank] at h
  cases h
  exact hkind rfl

/-- The code of the finding about an envelope that is not accepted: there is none, or it is refused
as one of its kind. -/
inductive RejectsAs (c : Commit) : Code → Prop
  | unsigned : isBlankText c.signature.toList → RejectsAs c .missingSignature
  | gpg {fault : Envelope.Fault} : Envelope.judge c.signature.toList = ⟨.gpg, some fault⟩ →
      RejectsAs c .invalidGpgFormat
  | ssh {fault : Envelope.Fault} : Envelope.judge c.signature.toList = ⟨.ssh, some fault⟩ →
      RejectsAs c .invalidSshFormat
  | unknown {fault : Envelope.Fault} : ¬isBlankText c.signature.toList →
      Envelope.judge c.signature.toList = ⟨.unknown, some fault⟩ →
      RejectsAs c .unknownSignatureFormat

section Envelope

variable {explain : String → String} {rule : Rule} {c : Commit}

theorem checkEnvelope_of_isBlankText (h : isBlankText c.signature.toList) :
    checkEnvelope explain rule c = .error (unsigned rule) := by
  rw [checkEnvelope, if_pos h]

theorem checkEnvelope_of_accepted (h : (verdict c).fault = none) :
    checkEnvelope explain rule c = .ok (verdict c).kind := by
  have hblank : ¬isBlankText c.signature.toList := fun hblank => by
    rw [fault_verdict_of_isBlankText hblank] at h
    cases h
  rw [checkEnvelope, if_neg hblank, ← verdict, ofVerdict, h]

theorem checkEnvelope_of_refused (hblank : ¬isBlankText c.signature.toList)
    {fault : Envelope.Fault} (h : (verdict c).fault = some fault) :
    checkEnvelope explain rule c =
      .error (refusedFinding explain rule (verdict c).kind fault) := by
  rw [checkEnvelope, if_neg hblank, ← verdict, ofVerdict, h, refusedFinding]

/-- A finding about an envelope depends on the rule in its label only. -/
theorem checkEnvelope_of_not_accepted (explain : String → String)
    (h : (verdict c).fault ≠ none) :
    ∃ finding : Finding,
      ∀ rule, checkEnvelope explain rule c = .error { finding with rule := rule } := by
  by_cases hblank : isBlankText c.signature.toList
  · exact ⟨unsigned .signature, fun rule => checkEnvelope_of_isBlankText hblank⟩
  · obtain ⟨fault, hfault⟩ := Option.ne_none_iff_exists'.mp h
    exact ⟨refusedFinding explain .signature (verdict c).kind fault,
      fun rule => checkEnvelope_of_refused hblank hfault⟩

/-- An envelope that is judged to be faulty gives a finding with the code of its kind. -/
theorem checkEnvelope_of_judge {kind : Envelope.Kind} {fault : Envelope.Fault}
    (hblank : ¬isBlankText c.signature.toList)
    (h : Envelope.judge c.signature.toList = ⟨kind, some fault⟩) :
    ∃ finding : Finding, checkEnvelope explain rule c = .error finding ∧
      finding.code = refusedCode kind := by
  have hverdict : verdict c = ⟨kind, some fault⟩ := h
  refine ⟨_, checkEnvelope_of_refused hblank (by rw [hverdict]), ?_⟩
  rw [hverdict, refusedFinding]
  exact envelopeCode_of_judge h

theorem checkEnvelope_of_rejectsAs {code : Code} (h : RejectsAs c code) :
    ∃ finding : Finding, checkEnvelope explain rule c = .error finding ∧ finding.code = code := by
  cases h with
  | unsigned hblank => exact ⟨_, checkEnvelope_of_isBlankText hblank, rfl⟩
  | gpg hjudge => exact checkEnvelope_of_judge (not_isBlankText_of_judge hjudge (by decide)) hjudge
  | ssh hjudge => exact checkEnvelope_of_judge (not_isBlankText_of_judge hjudge (by decide)) hjudge
  | unknown hblank hjudge => exact checkEnvelope_of_judge hblank hjudge

theorem exists_rejectsAs (h : (Envelope.judge c.signature.toList).fault ≠ none) :
    ∃ code, RejectsAs c code := by
  by_cases hblank : isBlankText c.signature.toList
  · exact ⟨_, .unsigned hblank⟩
  rcases hjudge : Envelope.judge c.signature.toList with ⟨kind, _ | fault⟩
  · rw [hjudge] at h
    exact absurd rfl h
  · cases kind with
    | gpg => exact ⟨_, .gpg hjudge⟩
    | ssh => exact ⟨_, .ssh hjudge⟩
    | unknown => exact ⟨_, .unknown hblank hjudge⟩

end Envelope

/-! ### The rule on signers -/

/-- All that the rule on signers asks for: a sound envelope around something, work that goes on,
and a verifier that names a signer whom the settings accept. -/
structure Clears (settings : Settings.Identity) (c : Commit) (s : Session) (reply : VerifyReply) :
    Prop where
  signed : ¬isBlankText c.signature.toList
  accepted : (Envelope.judge c.signature.toList).fault = none
  running : s.cancelled = false
  verified : ∃ signer, reply = .ok signer ∧ Admits settings signer

/-- The first thing that the rule on signers finds missing, by the code of its finding. -/
inductive FailsWith (settings : Settings.Identity) (c : Commit) (s : Session)
    (reply : VerifyReply) : Code → Prop
  | rejected {code : Code} : RejectsAs c code → FailsWith settings c s reply code
  | cancelled : (Envelope.judge c.signature.toList).fault = none → s.cancelled = true →
      FailsWith settings c s reply .cancelled
  | unverified {fault : VerifyFault} : (Envelope.judge c.signature.toList).fault = none →
      s.cancelled = false → reply = .error fault → fault ≠ .cancelled →
      FailsWith settings c s reply .verificationFailed
  | cancelledByVerifier : (Envelope.judge c.signature.toList).fault = none →
      s.cancelled = false → reply = .error .cancelled → FailsWith settings c s reply .cancelled
  | unauthorized {signer : Signer} : (Envelope.judge c.signature.toList).fault = none →
      s.cancelled = false → reply = .ok signer → ¬Admits settings signer →
      FailsWith settings c s reply .unauthorizedSigner

theorem clears_or_failsWith (settings : Settings.Identity) (c : Commit) (s : Session)
    (reply : VerifyReply) :
    Clears settings c s reply ∨ ∃ code, FailsWith settings c s reply code := by
  by_cases haccepted : (Envelope.judge c.signature.toList).fault = none
  · cases hrunning : s.cancelled with
    | true => exact .inr ⟨_, .cancelled haccepted hrunning⟩
    | false =>
      cases hreply : reply with
      | error fault =>
        by_cases hfault : fault = .cancelled
        · exact .inr ⟨_, .cancelledByVerifier haccepted hrunning (by rw [hfault])⟩
        · exact .inr ⟨_, .unverified haccepted hrunning rfl hfault⟩
      | ok signer =>
        by_cases hadmits : Admits settings signer
        · have hsigned : ¬isBlankText c.signature.toList := fun hblank => by
            rw [← verdict, fault_verdict_of_isBlankText hblank] at haccepted
            cases haccepted
          exact .inl ⟨hsigned, haccepted, hrunning, signer, rfl, hadmits⟩
        · exact .inr ⟨_, .unauthorized haccepted hrunning rfl hadmits⟩
  · obtain ⟨code, hrejects⟩ := exists_rejectsAs haccepted
    exact .inr ⟨code, .rejected hrejects⟩

section SignedIdentity

variable {settings : Settings.Identity} {team : Collaborators} {c : Commit} {s : Session}
  {verify : Nat → Commit → VerifyReply}

/-- A finding about the envelope is the only one. -/
theorem signedIdentity_of_error {finding : Finding}
    (h : checkEnvelope team.explain .signedIdentity c = .error finding) :
    (signedIdentity settings team c s).1.findings = [finding] := by
  rw [signedIdentity, h]
  rfl

theorem signedIdentity_of_cancelled (hverify : team.verify = some verify)
    (haccepted : (verdict c).fault = none) (hcancelled : s.cancelled = true) :
    (signedIdentity settings team c s).1 = verificationCancelled := by
  rw [signedIdentity, checkEnvelope_of_accepted haccepted, identityOutcome, hverify]
  dsimp only
  rw [if_pos hcancelled]

theorem signedIdentity_of_running (hverify : team.verify = some verify)
    (haccepted : (verdict c).fault = none) (hrunning : s.cancelled = false) :
    (signedIdentity settings team c s).1 = signerOutcome settings (s.askVerify verify c).1 := by
  rw [signedIdentity, checkEnvelope_of_accepted haccepted, identityOutcome, hverify]
  dsimp only
  rw [if_neg (by simp [hrunning])]

/-- Where nothing is missing, the rule passes and says so. -/
theorem signedIdentity_of_clears (hverify : team.verify = some verify)
    (h : Clears settings c s (s.askVerify verify c).1) :
    (signedIdentity settings team c s).1.findings = [] ∧
      (signedIdentity settings team c s).1.details.get? "status" = some "verified" := by
  obtain ⟨signer, hreply, hadmits⟩ := h.verified
  rw [signedIdentity_of_running hverify h.accepted h.running, hreply]
  refine ⟨signerFindings_eq_nil_iff.mpr hadmits, ?_⟩
  rw [signerOutcome, Fields.get?_ofList]
  cases signer.keyId <;> rfl

/-- What is missing first is the only finding. -/
theorem findings_signedIdentity_of_failsWith (hverify : team.verify = some verify) {code : Code}
    (h : FailsWith settings c s (s.askVerify verify c).1 code) :
    ∃ finding, (signedIdentity settings team c s).1.findings = [finding] ∧ finding.code = code := by
  cases h with
  | rejected hrejects =>
    obtain ⟨finding, hfinding, hcode⟩ := checkEnvelope_of_rejectsAs hrejects
    exact ⟨finding, signedIdentity_of_error hfinding, hcode⟩
  | cancelled haccepted hcancelled =>
    rw [signedIdentity_of_cancelled hverify haccepted hcancelled]
    exact ⟨_, rfl, rfl⟩
  | unverified haccepted hrunning hreply hfault =>
    rw [signedIdentity_of_running hverify haccepted hrunning, hreply, signerOutcome]
    · exact ⟨_, rfl, rfl⟩
    · exact hfault
  | cancelledByVerifier haccepted hrunning hreply =>
    rw [signedIdentity_of_running hverify haccepted hrunning, hreply]
    exact ⟨_, rfl, rfl⟩
  | @unauthorized signer haccepted hrunning hreply hadmits =>
    rw [signedIdentity_of_running hverify haccepted hrunning, hreply]
    exact ⟨_, signerFindings_of_not_admits hadmits, rfl⟩

end SignedIdentity

/-- The rule on signers fails closed: it passes exactly if nothing is missing, and then says that
the signer is verified. Whatever is missing first is its only finding. About an envelope that is
refused it reports what the rule on signatures reports. -/
theorem signedIdentity_failsClosed (settings : Settings.Identity) {team : Collaborators}
    {verify : Nat → Commit → VerifyReply} (hverify : team.verify = some verify) (c : Commit)
    (s : Session) :
    ((signedIdentity settings team c s).1.passed ↔
        Clears settings c s (s.askVerify verify c).1) ∧
      ((signedIdentity settings team c s).1.passed →
        (signedIdentity settings team c s).1.details.get? "status" = some "verified") ∧
      (¬(signedIdentity settings team c s).1.passed →
        ∃ finding, (signedIdentity settings team c s).1.findings = [finding] ∧
          ∀ code, FailsWith settings c s (s.askVerify verify c).1 code ↔ finding.code = code) ∧
      ((Envelope.judge c.signature.toList).fault ≠ none → ∀ kinds : Settings.Signature,
        ∃ finding other, (signedIdentity settings team c s).1.findings = [finding] ∧
          (signature team.explain kinds c).findings = [other] ∧ finding.code = other.code ∧
          finding.message = other.message ∧ finding.help = other.help ∧
          finding.context = other.context) := by
  have hpassed : (signedIdentity settings team c s).1.passed ↔
      Clears settings c s (s.askVerify verify c).1 := by
    rw [Outcome.passed, List.isEmpty_iff]
    refine ⟨fun h => ?_, fun h => (signedIdentity_of_clears hverify h).1⟩
    refine (clears_or_failsWith settings c s (s.askVerify verify c).1).resolve_right ?_
    rintro ⟨code, hfails⟩
    obtain ⟨finding, hfinding, -⟩ := findings_signedIdentity_of_failsWith hverify hfails
    rw [h] at hfinding
    cases hfinding
  refine ⟨hpassed, fun h => (signedIdentity_of_clears hverify (hpassed.mp h)).2, fun h => ?_,
    fun h kinds => ?_⟩
  · obtain ⟨code, hfails⟩ := (clears_or_failsWith settings c s _).resolve_left (mt hpassed.mpr h)
    obtain ⟨finding, hfinding, rfl⟩ := findings_signedIdentity_of_failsWith hverify hfails
    refine ⟨finding, hfinding, fun code => ⟨fun hfails' => ?_, fun heq => heq ▸ hfails⟩⟩
    obtain ⟨other, hother, rfl⟩ := findings_signedIdentity_of_failsWith hverify hfails'
    rw [hfinding] at hother
    cases hother
    rfl
  · obtain ⟨finding, hfinding⟩ := checkEnvelope_of_not_accepted team.explain h
    refine ⟨{ finding with rule := .signedIdentity }, { finding with rule := .signature },
      signedIdentity_of_error (hfinding .signedIdentity), ?_, rfl, rfl, rfl, rfl⟩
    rw [signature, hfinding .signature, signatureOutcome]

/-- A signer who is listed by the mail address, in another case and among blanks. -/
theorem signedIdentity_failsClosed_listed :
    let settings : Settings.Identity := { allowedSigners := ["bob", " Alice@Example.COM\t"] }
    let verify : Nat → Commit → VerifyReply :=
      scripted (.ok { name := "Alice", email := some "alice@example.com" }) []
    let c : Commit :=
      { message := "feat: a"
        signature :=
          "ssh-ed25519: AAAAAAAAAAAAAAAAAAAAAAAAAAAAAAAAAAAAAAAAAAAAAAAAAAAAAAAAAAAAAAAAAAAA\n" }
    ({ verify := some verify } : Collaborators).verify = some verify ∧
      (signedIdentity settings { verify := some verify } c {}).1.passed ∧
      (signedIdentity settings { verify := some verify } c {}).1.details.get? "status" =
        some "verified" := by
  intro settings verify c
  have hclears : Clears settings c {} (Session.askVerify {} verify c).1 :=
    { signed := by decide +kernel
      accepted := by decide +kernel
      running := rfl
      verified :=
        ⟨_, rfl, .inr ⟨" Alice@Example.COM\t", by decide, Signer.isNamedBy_iff.mp (by decide)⟩⟩ }
  have hverify : ({ verify := some verify } : Collaborators).verify = some verify := rfl
  obtain ⟨hpassed, hstatus, -⟩ := signedIdentity_failsClosed settings hverify c {}
  exact ⟨hverify, hpassed.mpr hclears, hstatus (hpassed.mpr hclears)⟩

end Check

end CommitLint
