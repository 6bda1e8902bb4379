import CommitLint.Proofs.Check.Signature
import CommitLint.Proofs.Verification

/-!
# Blank entries in a list of signers

Blanks around an entry do not count, so an entry of blanks alone is the empty text. It lists exactly
the signers that have an empty label (`Signer.isListedAs_iff_of_isBlankText`).

Such signers exist. A line about a good signature leaves a label empty if what should become the
label is missing from it, in one of five ways (`LeavesEmpty`). There is no sixth, because the line
is trimmed: what follows a blank in it is not blank (`First.not_isBlankText`), so a user who is
mentioned, a principal without a key, and the last word about a key are not empty.

So a list of blank entries turns away a signer who is named by any other line, and lets in whoever
is named by such a line (`signedIdentity_blankEntries`).
-/

namespace CommitLint

open Text

/-- A blank entry is the empty label. -/
theorem Signer.isListedAs_iff_of_isBlankText {signer : Signer} {entry : String}
    (h : isBlankText entry.toList) : signer.IsListedAs entry ↔ "" ∈ signer.labels := by
  rw [IsListedAs, trim_eq_nil_iff.mpr h]
  simp only [List.forall₂_nil_right_iff, String.toList_eq_nil_iff, exists_eq_right]

theorem Signer.empty_mem_labels_iff {signer : Signer} :
    "" ∈ signer.labels ↔ signer.name = "" ∨ signer.email = some "" ∨ signer.keyId = some "" := by
  simp only [labels, List.mem_cons, List.mem_append, Option.mem_toList, eq_comm]

namespace Verification

/-! ### Labels that a line leaves empty -/

/-- The lines about a good signature leave a label of the signer empty. -/
inductive LeavesEmpty (ls : List (List Char)) : Prop
  /-- Nothing follows the key, so there is no name. -/
  | noUser {rest : List Char} : First (HasField goodGpgStart) ls rest → ' ' ∉ rest → LeavesEmpty ls
  /-- Nothing but blanks stands before the address. -/
  | noName {rest key user name address : List Char} : First (HasField goodGpgStart) ls rest →
      CutsKey rest key user → IsLastCut " <".toList user name address → isBlankText name →
      LeavesEmpty ls
  /-- Nothing but closing brackets stands where the address is due. -/
  | noAddress {rest key user name address : List Char} : First (HasField goodGpgStart) ls rest →
      CutsKey rest key user → IsLastCut " <".toList user name address → (∀ c ∈ address, c = '>') →
      LeavesEmpty ls
  /-- A second space stands where the key is due, and no line tells a fingerprint. -/
  | noKey {user : List Char} : First (HasField goodGpgStart) ls (' ' :: user) →
      Silent (HasField validGpgStart) ls → LeavesEmpty ls
  /-- The SSH key is told where the principal is due. -/
  | noPrincipal {key : List Char} : Silent (HasField goodGpgStart) ls →
      First (HasField goodSshStart) ls (" with ".toList ++ key) → LeavesEmpty ls

/-- What follows a blank in a line is not blank. -/
theorem First.not_isBlankText {start more before after : List Char} {b : Char}
    {ls : List (List Char)} (h : First (HasField start) ls more) (hb : isBlank b)
    (heq : start ++ more = before ++ b :: after) : ¬isBlankText after := by
  obtain ⟨_, line, _, -, hline, -⟩ := h
  exact not_isBlankText_of_trim_eq_append hb (hline.trans heq)

theorem First.not_isBlankText_of_eq {start stem rest : List Char} {ls : List (List Char)}
    (hstart : start = stem ++ [' ']) (h : First (HasField start) ls rest) : ¬isBlankText rest := by
  have hafter : start ++ rest = stem ++ ' ' :: rest := by
    rw [hstart, List.append_assoc, List.singleton_append]
  exact h.not_isBlankText (by decide) hafter

section

variable {ls : List (List Char)} {rest : List Char}

theorem not_isBlankText_of_goodGpg (h : First (HasField goodGpgStart) ls rest) :
    ¬isBlankText rest := by
  have hstart : goodGpgStart = "[GNUPG:] GOODSIG".toList ++ [' '] := by decide +kernel
  exact h.not_isBlankText_of_eq hstart

theorem not_isBlankText_of_goodSsh (h : First (HasField goodSshStart) ls rest) :
    ¬isBlankText rest := by
  have hstart : goodSshStart = "Good \"git\" signature for".toList ++ [' '] := by decide +kernel
  exact h.not_isBlankText_of_eq hstart

/-- The name is empty if there is no user, or nothing in front of the address. -/
theorem LeavesEmpty.of_name_eq_nil {key user name : List Char} {address : Option (List Char)}
    (hrest : First (HasField goodGpgStart) ls rest) (hkey : CutsKey rest key user)
    (huser : SplitsUser user name address) (hname : name = []) : LeavesEmpty ls := by
  cases huser with
  | address hcut => exact .noName hrest hkey hcut (trim_eq_nil_iff.mp hname)
  | plain _ =>
    cases hkey with
    | alone hspace => exact .noUser hrest hspace
    | user heq _ =>
      have hafter : goodGpgStart ++ rest = (goodGpgStart ++ key) ++ ' ' :: user := by
        rw [heq, List.append_assoc]
      exact absurd (trim_eq_nil_iff.mp hname) (hrest.not_isBlankText (by decide) hafter)

/-- The address is empty if there is none in its brackets. -/
theorem LeavesEmpty.of_address_eq_nil {key user name address : List Char}
    (hrest : First (HasField goodGpgStart) ls rest) (hkey : CutsKey rest key user)
    (huser : SplitsUser user name (some address)) (haddress : address = []) : LeavesEmpty ls := by
  cases huser with
  | address hcut =>
    refine .noAddress hrest hkey hcut fun c hc => ?_
    simpa using dropEndWhile_eq_nil_iff.mp haddress c hc

/-- The key is empty if a space stands in its place: a fingerprint is a word, so it is not. -/
theorem LeavesEmpty.of_keyId_eq_nil {key user keyId : List Char}
    (hrest : First (HasField goodGpgStart) ls rest) (hkey : CutsKey rest key user)
    (hkeyId : HasKeyId ls key keyId) (hnil : keyId = []) : LeavesEmpty ls := by
  cases hkeyId with
  | @fingerprint told _ _ _ hwords =>
    have hword : keyId ∈ words told := hwords ▸ List.mem_cons_self
    exact absurd hnil (ne_nil_of_mem_words hword)
  | key hsilent =>
    subst hnil
    cases hkey with
    | alone _ => exact absurd rfl (ne_nil_of_not_isBlankText (not_isBlankText_of_goodGpg hrest))
    | user heq _ => exact .noKey (heq ▸ hrest) hsilent

/-- The principal is empty if the key is told at once. -/
theorem LeavesEmpty.of_principal_eq_nil {principal : List Char} {key : Option (List Char)}
    (hsilent : Silent (HasField goodGpgStart) ls) (hrest : First (HasField goodSshStart) ls rest)
    (hsplit : SplitsPrincipal rest principal key) (hnil : principal = []) : LeavesEmpty ls := by
  subst hnil
  cases hsplit with
  | key hcut _ _ => exact .noPrincipal hsilent (hcut.eq ▸ hrest)
  | alone _ => exact absurd rfl (ne_nil_of_not_isBlankText (not_isBlankText_of_goodSsh hrest))

/-- The last word about an SSH key is not empty. -/
theorem SplitsPrincipal.ne_nil_of_key {principal word : List Char}
    (hrest : First (HasField goodSshStart) ls rest)
    (hsplit : SplitsPrincipal rest principal (some word)) : word ≠ [] := by
  refine ne_nil_of_not_isBlankText ?_
  cases hsplit with
  | @key _ key _ hcut hword _ =>
    have hkey : goodSshStart ++ rest =
        goodSshStart ++ principal ++ " with".toList ++ ' ' :: key := by
      rw [hcut.eq]
      simp
    rcases hword with rfl | ⟨start, rfl⟩
    · exact hrest.not_isBlankText (by decide) hkey
    · rw [← List.cons_append, ← List.append_assoc] at hkey
      exact hrest.not_isBlankText (by decide) hkey

end

/-! ### Signers with an empty label -/

theorem Names.unique {ls : List (List Char)} {signer other : Signer} (h : Names ls signer)
    (h' : Names ls other) : signer = other :=
  Option.some.inj (h.signer?_eq.symm.trans h'.signer?_eq)

theorem Names.leavesEmpty {ls : List (List Char)} {signer : Signer} (h : Names ls signer)
    (hempty : "" ∈ signer.labels) : LeavesEmpty ls := by
  rw [Signer.empty_mem_labels_iff] at hempty
  cases h with
  | @gpg rest key user name keyId address hrest hkey huser hkeyId =>
    rcases hempty with hname | haddress | hkeyId'
    · exact .of_name_eq_nil hrest hkey huser (String.ofList_eq_empty_iff.mp hname)
    · obtain ⟨text, rfl, htext⟩ := Option.map_eq_some_iff.mp haddress
      exact .of_address_eq_nil hrest hkey huser (String.ofList_eq_empty_iff.mp htext)
    · exact .of_keyId_eq_nil hrest hkey hkeyId
        (String.ofList_eq_empty_iff.mp (Option.some.inj hkeyId'))
  | @ssh rest principal key hsilent hrest hsplit =>
    rcases hempty with hname | haddress | hkey
    · exact .of_principal_eq_nil hsilent hrest hsplit (String.ofList_eq_empty_iff.mp hname)
    · -- The address is the principal.
      obtain ⟨-, hname⟩ := Option.ite_none_right_eq_some.mp haddress
      exact .of_principal_eq_nil hsilent hrest hsplit
        (String.ofList_eq_empty_iff.mp (Option.some.inj hname))
    · obtain ⟨word, rfl, hword⟩ := Option.map_eq_some_iff.mp hkey
      exact absurd (String.ofList_eq_empty_iff.mp hword) (hsplit.ne_nil_of_key hrest)

/-- Each way to leave a label empty comes with a signer who has an empty label. -/
theorem LeavesEmpty.exists_names {ls : List (List Char)} (h : LeavesEmpty ls) :
    ∃ signer, Names ls signer ∧ "" ∈ signer.labels := by
  simp only [Signer.empty_mem_labels_iff]
  cases h with
  | noUser hrest hspace =>
    have huser : SplitsUser [] [] none := .plain (by decide)
    exact ⟨_, .gpg hrest (.alone hspace) huser (hasKeyId_iff.mpr rfl), .inl rfl⟩
  | @noName rest key user name address hrest hkey hcut hblank =>
    refine ⟨_, .gpg hrest hkey (.address hcut) (hasKeyId_iff.mpr rfl), .inl ?_⟩
    rw [trim_eq_nil_iff.mpr hblank]
  | @noAddress rest key user name address hrest hkey hcut hclosing =>
    refine ⟨_, .gpg hrest hkey (.address hcut) (hasKeyId_iff.mpr rfl), .inr (.inl ?_)⟩
    rw [Option.map_some, dropEndWhile_eq_nil_iff.mpr fun c hc => beq_iff_eq.mpr (hclosing c hc)]
  | @noKey user hrest hsilent =>
    have hkey : CutsKey (' ' :: user) [] user := .user rfl List.not_mem_nil
    exact ⟨_, .gpg hrest hkey (splitsUser_iff.mpr rfl) (.key hsilent), .inr (.inr rfl)⟩
  | @noPrincipal key hsilent hrest =>
    have hcut : IsFirstCut " with ".toList (" with ".toList ++ key) [] key :=
      ⟨rfl, fun _ _ _ => Nat.zero_le _⟩
    obtain ⟨hword, hplain⟩ := lastWord_eq_iff.mp (rfl : lastWord key = lastWord key)
    exact ⟨_, .ssh hsilent hrest (.key hcut hword hplain), .inl rfl⟩

theorem Names.empty_mem_labels_iff {ls : List (List Char)} {signer : Signer}
    (h : Names ls signer) : "" ∈ signer.labels ↔ LeavesEmpty ls := by
  refine ⟨h.leavesEmpty, fun hempty => ?_⟩
  obtain ⟨other, hother, hlabel⟩ := hempty.exists_names
  exact h.unique hother ▸ hlabel

end Verification

/-! ### The rule on signers -/

namespace Check

open Verification

/-- A list of blank entries accepts a signer for an empty label. -/
theorem admits_iff_of_isBlankText {settings : Settings.Identity} {signer : Signer}
    (hlist : settings.allowedSigners ≠ [])
    (hblank : ∀ entry ∈ settings.allowedSigners, isBlankText entry.toList) :
    Admits settings signer ↔ "" ∈ signer.labels := by
  rw [Admits, or_iff_right hlist]
  constructor
  · rintro ⟨entry, hentry, hlisted⟩
    exact (Signer.isListedAs_iff_of_isBlankText (hblank entry hentry)).mp hlisted
  · intro hempty
    obtain ⟨entry, hentry⟩ := List.exists_mem_of_ne_nil _ hlist
    exact ⟨entry, hentry, (Signer.isListedAs_iff_of_isBlankText (hblank entry hentry)).mpr hempty⟩

/-- A list of blank entries lets in exactly the signers with an empty label, who are those named by
lines that leave a label empty. About any other signer whom the verifier names there is one finding,
that the signer is not on the list. -/
theorem signedIdentity_blankEntries {settings : Settings.Identity} {team : Collaborators}
    {verify : Nat → Commit → VerifyReply} (hverify : team.verify = some verify)
    (hlist : settings.allowedSigners ≠ [])
    (hblank : ∀ entry ∈ settings.allowedSigners, isBlankText entry.toList) {c : Commit}
    {s : Session} (haccepted : (Envelope.judge c.signature.toList).fault = none)
    (hrunning : s.cancelled = false) {success : Bool} {text : List Char} {signer : Signer}
    (hasked : (s.askVerify verify c).1 = readReply success text)
    (hreply : readReply success text = .ok signer) :
    ((signedIdentity settings team c s).1.findings = [unauthorizedFinding settings signer] ↔
        ¬LeavesEmpty (lines text)) ∧
      ((signedIdentity settings team c s).1.passed ↔ LeavesEmpty (lines text)) ∧
      (LeavesEmpty (lines text) ↔ "" ∈ signer.labels) := by
  have hlabels : LeavesEmpty (lines text) ↔ "" ∈ signer.labels :=
    (readReply_eq_ok_iff.mp hreply).2.empty_mem_labels_iff.symm
  have hadmits : Admits settings signer ↔ LeavesEmpty (lines text) :=
    (admits_iff_of_isBlankText hlist hblank).trans hlabels.symm
  have hfindings : (signedIdentity settings team c s).1.findings =
      signerFindings settings signer := by
    rw [signedIdentity_of_running hverify haccepted hrunning, hasked, hreply, signerOutcome]
  refine ⟨?_, ?_, hlabels⟩
  · rw [hfindings, ← hadmits]
    refine ⟨fun h hin => ?_, signerFindings_of_not_admits⟩
    rw [signerFindings_eq_nil_iff.mpr hin] at h
    cases h
  · rw [Outcome.passed, List.isEmpty_iff, hfindings, signerFindings_eq_nil_iff, hadmits]

/-- Two blank entries and a signer with a name, an address and a key. -/
theorem signedIdentity_blankEntries_named :
    let settings : Settings.Identity := { allowedSigners := [" ", ""] }
    let text := "[GNUPG:] GOODSIG AB Jo R <j@x.org>\n".toList
    let signer : Signer := { name := "Jo R", email := some "j@x.org", keyId := some "AB" }
    let verify : Nat → Commit → VerifyReply := fun _ _ => readReply true text
    let c : Commit :=
      { message := "feat: a"
        signature :=
          "ssh-ed25519: AAAAAAAAAAAAAAAAAAAAAAAAAAAAAAAAAAAAAAAAAAAAAAAAAAAAAAAAAAAAAAAAAAAA\n" }
    (Envelope.judge c.signature.toList).fault = none ∧ readReply true text = .ok signer ∧
      (signedIdentity settings { verify := some verify } c {}).1.findings =
        [unauthorizedFinding settings signer] := by
  intro settings text signer verify c
  have haccepted : (Envelope.judge c.signature.toList).fault = none := by decide +kernel
  have hreply : readReply true text = .ok signer := by rfl
  have hlist : settings.allowedSigners ≠ [] := by decide
  have hblank : ∀ entry ∈ settings.allowedSigners, isBlankText entry.toList := by decide
  have hverify : ({ verify := some verify } : Collaborators).verify = some verify := rfl
  have hrunning : ({} : Session).cancelled = false := rfl
  obtain ⟨hfindings, -, hlabels⟩ :=
    signedIdentity_blankEntries hverify hlist hblank haccepted hrunning rfl hreply
  exact ⟨haccepted, hreply, hfindings.mpr (mt hlabels.mp (by decide))⟩

/-- A signer whose address is empty is on a list of one space. -/
theorem not_forall_unauthorized_of_isBlankText :
    ¬∀ (settings : Settings.Identity) (text : List Char) (signer : Signer) (c : Commit),
      settings.allowedSigners ≠ [] →
      (∀ entry ∈ settings.allowedSigners, isBlankText entry.toList) →
      (Envelope.judge c.signature.toList).fault = none → readReply true text = .ok signer →
      ∃ finding ∈ (signedIdentity settings
          { verify := some fun _ _ => readReply true text } c {}).1.findings,
        finding.code = .unauthorizedSigner := by
  intro h
  let settings : Settings.Identity := { allowedSigners := [" "] }
  let text := "[GNUPG:] GOODSIG ABCD1234 Mallory <>\n".toList
  let signer : Signer := { name := "Mallory", email := some "", keyId := some "ABCD1234" }
  let c : Commit :=
    { message := "feat: a"
      signature :=
        "ssh-ed25519: AAAAAAAAAAAAAAAAAAAAAAAAAAAAAAAAAAAAAAAAAAAAAAAAAAAAAAAAAAAAAAAAAAAA\n" }
  have haccepted : (Envelope.judge c.signature.toList).fault = none := by decide +kernel
  have hreply : readReply true text = .ok signer := by rfl
  obtain ⟨finding, hfinding, -⟩ :=
    h settings text signer c (by decide) (by decide) haccepted hreply
  have hadmits : Admits settings signer :=
    .inr ⟨" ", by decide, Signer.isNamedBy_iff.mp (by decide)⟩
  rw [signedIdentity_of_running rfl haccepted rfl] at hfinding
  have hnone : signerFindings settings signer = [] := signerFindings_eq_nil_iff.mpr hadmits
  have hasked : (Session.askVerify {} (fun _ _ => readReply true text) c).1 = .ok signer := hreply
  rw [hasked, signerOutcome, hnone] at hfinding
  cases hfinding

end Check

end CommitLint
