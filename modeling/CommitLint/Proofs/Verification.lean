import CommitLint.Proofs.Text.Find
import CommitLint.Proofs.Text.Insertion
import CommitLint.Proofs.Text.Words
import CommitLint.Verification
import Mathlib.Logic.Relation

/-!
# Whom a verification names

Git's error stream is searched line by line, and each search stops at the first line that says what
it looks for (`First`). A signer is named by the first line about a good PGP signature, together
with the first one about a fingerprint; where there is none, by the first line about a good SSH
signature (`Names`). Faults come from the first status line that reports one, and from the text as a
whole only if there is no such line (`ReportsFault`, `TextFault`).

`readReply_exact` puts this together. Its last part rests on `findSome?_field?_of_insertsLines`:
lines with other beginnings are not noticed by the searches that name a signer, and these searches
alone decide once git has succeeded.
-/

namespace CommitLint.Verification

open Text

/-! ### The first line that says something -/

/-- A line, blanks around it aside, is a beginning and a rest. -/
def HasField (start line rest : List Char) : Prop := trim line = start ++ rest

/-- The first line that says anything says `a`. -/
def First {α : Type} (Says : List Char → α → Prop) (ls : List (List Char)) (a : α) : Prop :=
  ∃ above line below, ls = above ++ line :: below ∧ Says line a ∧ ∀ l ∈ above, ∀ b, ¬Says l b

/-- No line says anything. -/
def Silent {α : Type} (Says : List Char → α → Prop) (ls : List (List Char)) : Prop :=
  ∀ l ∈ ls, ∀ a, ¬Says l a

section

variable {α : Type} {f : List Char → Option α} {Says : List Char → α → Prop}
  (h : ∀ l a, f l = some a ↔ Says l a)

include h

theorem eq_none_iff (l : List Char) : f l = none ↔ ∀ a, ¬Says l a := by
  simp only [Option.eq_none_iff_forall_ne_some, ne_eq, h]

theorem findSome?_eq_some_iff {ls : List (List Char)} {a : α} :
    ls.findSome? f = some a ↔ First Says ls a := by
  simp only [List.findSome?_eq_some_iff, h, eq_none_iff h, First]

theorem findSome?_eq_none_iff {ls : List (List Char)} :
    ls.findSome? f = none ↔ Silent Says ls := by
  simp only [List.findSome?_eq_none_iff, eq_none_iff h, Silent]

end

theorem field?_eq_some_iff {start : List Char} (line rest : List Char) :
    field? start line = some rest ↔ HasField start line rest :=
  afterStart?_eq_some_iff

theorem exists_hasField_iff {start line : List Char} :
    (∃ rest, HasField start line rest) ↔ start <+: trim line :=
  exists_congr fun _ => eq_comm

theorem exists_first_hasField_iff {start : List Char} {ls : List (List Char)} :
    (∃ rest, First (HasField start) ls rest) ↔ ∃ line ∈ ls, start <+: trim line := by
  simp only [← findSome?_eq_some_iff field?_eq_some_iff, ← exists_hasField_iff,
    ← field?_eq_some_iff, ← Option.isSome_iff_exists, List.findSome?_isSome_iff]

theorem not_exists_first_iff_silent {start : List Char} {ls : List (List Char)} :
    (¬∃ rest, First (HasField start) ls rest) ↔ Silent (HasField start) ls := by
  simp only [← findSome?_eq_some_iff field?_eq_some_iff, ← findSome?_eq_none_iff field?_eq_some_iff,
    Option.eq_none_iff_forall_ne_some, not_exists, ne_eq]

/-! ### Whom the lines name -/

/-- The key of a line about a good signature ends at its first space, and the user follows. -/
inductive CutsKey (rest : List Char) : List Char → List Char → Prop
  | user {key user : List Char} : rest = key ++ ' ' :: user → ' ' ∉ key → CutsKey rest key user
  | alone : ' ' ∉ rest → CutsKey rest rest []

/-- The address of a user stands after the last space and opening bracket. -/
inductive SplitsUser (user : List Char) : List Char → Option (List Char) → Prop
  | address {name address : List Char} : IsLastCut " <".toList user name address →
      SplitsUser user (trim name) (some (dropEndWhile (· == '>') address))
  | plain : ¬" <".toList <:+: user → SplitsUser user (trim user) none

/-- A signer goes by the first word about a valid signature, or else by a key. -/
inductive HasKeyId (ls : List (List Char)) (key : List Char) : List Char → Prop
  | fingerprint {rest word : List Char} {more : List (List Char)} :
      First (HasField validGpgStart) ls rest → words rest = word :: more → HasKeyId ls key word
  | key : Silent (HasField validGpgStart) ls → HasKeyId ls key key

/-- The principal of a line about a good SSH signature ends where the key is told. Of what is said
about the key, the last word counts. -/
inductive SplitsPrincipal (rest : List Char) : List Char → Option (List Char) → Prop
  | key {principal key word : List Char} : IsFirstCut " with ".toList rest principal key →
      (key = word ∨ ∃ start, key = start ++ ' ' :: word) → ' ' ∉ word →
      SplitsPrincipal rest principal (some word)
  | alone : ¬" with ".toList <:+: rest → SplitsPrincipal rest rest none

/-- Whom some lines name: whoever made a good PGP signature, and only where no line speaks of one,
whoever made a good SSH signature. -/
inductive Names (ls : List (List Char)) : Signer → Prop
  | gpg {rest key user name keyId : List Char} {address : Option (List Char)} :
      First (HasField goodGpgStart) ls rest → CutsKey rest key user →
      SplitsUser user name address → HasKeyId ls key keyId →
      Names ls
        { name := .ofList name, email := address.map .ofList, keyId := some (.ofList keyId) }
  | ssh {rest principal : List Char} {key : Option (List Char)} :
      Silent (HasField goodGpgStart) ls → First (HasField goodSshStart) ls rest →
      SplitsPrincipal rest principal key →
      Names ls
        { name := .ofList principal
          email := if '@' ∈ principal then some (.ofList principal) else none
          keyId := key.map .ofList }

theorem cutsKey_iff {rest key user : List Char} :
    CutsKey rest key user ↔ (cutAt ' ' rest).getD (rest, []) = (key, user) := by
  cases hcut : cutAt ' ' rest with
  | none =>
    have hrest := cutAt_eq_none_iff.mp hcut
    rw [Option.getD_none, Prod.mk.injEq]
    constructor
    · rintro (⟨heq, -⟩ | -)
      · exact absurd (by simp [heq]) hrest
      · exact ⟨rfl, rfl⟩
    · rintro ⟨rfl, rfl⟩
      exact .alone hrest
  | some cut =>
    obtain ⟨heq, hnot⟩ := cutAt_eq_some_iff.mp hcut
    rw [Option.getD_some]
    constructor
    · rintro (⟨heq', hnot'⟩ | hrest)
      · rw [cutAt_eq_some_iff.mpr ⟨heq', hnot'⟩, Option.some.injEq] at hcut
        exact hcut.symm
      · exact absurd (by simp [heq]) hrest
    · rintro rfl
      exact .user heq hnot

theorem splitsUser_iff {user name : List Char} {address : Option (List Char)} :
    SplitsUser user name address ↔ splitUser user = (name, address) := by
  rw [splitUser]
  cases hcut : cutAtLastText " <".toList user with
  | none =>
    have hplain := cutAtLastText_eq_none_iff.mp hcut
    constructor
    · rintro (h | -)
      · exact absurd ⟨_, _, h.eq.symm⟩ hplain
      · rfl
    · rintro h
      cases h
      exact .plain hplain
  | some cut =>
    have hlast := cutAtLastText_eq_some_iff.mp hcut
    constructor
    · rintro (h | hplain)
      · obtain ⟨rfl, rfl⟩ := hlast.unique h
        rfl
      · exact absurd ⟨_, _, hlast.eq.symm⟩ hplain
    · rintro h
      cases h
      exact .address hlast

theorem lastWord_eq_iff {key word : List Char} :
    lastWord key = word ↔ (key = word ∨ ∃ start, key = start ++ ' ' :: word) ∧ ' ' ∉ word := by
  rw [lastWord]
  cases hcut : cutAtLast ' ' key with
  | none =>
    have hkey := cutAtLast_eq_none_iff.mp hcut
    constructor
    · rintro rfl
      exact ⟨.inl rfl, hkey⟩
    · rintro ⟨rfl | ⟨start, heq⟩, -⟩
      · rfl
      · exact absurd (by simp [heq]) hkey
  | some cut =>
    obtain ⟨heq, hnot⟩ := cutAtLast_eq_some_iff.mp hcut
    constructor
    · rintro rfl
      exact ⟨.inr ⟨_, heq⟩, hnot⟩
    · rintro ⟨rfl | ⟨start, heq'⟩, hword⟩
      · exact absurd (by simp [heq]) hword
      · rw [cutAtLast_eq_some_iff.mpr ⟨heq', hword⟩, Option.some.injEq] at hcut
        rw [← hcut]

/-- What follows the beginning of a line about a valid signature has a first word: the line does not
end in the space of the beginning. -/
theorem exists_words_of_hasField {line rest : List Char} (h : HasField validGpgStart line rest) :
    ∃ word more, words rest = word :: more := by
  have hsplit : trim line = "[GNUPG:] VALIDSIG".toList ++ ' ' :: rest := h
  have hrest := not_isBlankText_of_trim_eq_append (by decide) hsplit
  exact List.exists_cons_of_ne_nil fun hnil => hrest (words_eq_nil_iff.mp hnil)

theorem findSome?_fingerprint? (ls : List (List Char)) :
    ls.findSome? fingerprint? =
      (ls.findSome? (field? validGpgStart)).bind fun rest => (words rest).head? := by
  induction ls with
  | nil => rfl
  | cons line ls ih =>
    rw [List.findSome?_cons, List.findSome?_cons, fingerprint?, ih]
    cases hfield : field? validGpgStart line with
    | none => rfl
    | some rest =>
      obtain ⟨word, more, hwords⟩ := exists_words_of_hasField ((field?_eq_some_iff _ _).mp hfield)
      rw [Option.bind_some, hwords]
      simp

theorem hasKeyId_iff {ls : List (List Char)} {key keyId : List Char} :
    HasKeyId ls key keyId ↔ (ls.findSome? fingerprint?).getD key = keyId := by
  rw [findSome?_fingerprint?]
  cases hfirst : ls.findSome? (field? validGpgStart) with
  | none =>
    constructor
    · rintro (⟨h, -⟩ | -)
      · rw [(findSome?_eq_some_iff field?_eq_some_iff).mpr h] at hfirst
        cases hfirst
      · rfl
    · rintro rfl
      exact .key ((findSome?_eq_none_iff field?_eq_some_iff).mp hfirst)
  | some rest =>
    have hrest := (findSome?_eq_some_iff field?_eq_some_iff).mp hfirst
    obtain ⟨above, line, below, -, hfield, -⟩ := id hrest
    obtain ⟨word, more, hwords⟩ := exists_words_of_hasField hfield
    rw [Option.bind_some, hwords, List.head?_cons, Option.getD_some]
    constructor
    · rintro (⟨h, hwords'⟩ | hsilent)
      · rw [(findSome?_eq_some_iff field?_eq_some_iff).mpr h, Option.some.injEq] at hfirst
        rw [hfirst, hwords, List.cons.injEq] at hwords'
        exact hwords'.1
      · rw [(findSome?_eq_none_iff field?_eq_some_iff).mpr hsilent] at hfirst
        cases hfirst
    · rintro rfl
      exact .fingerprint hrest hwords

theorem Names.signer?_eq {ls : List (List Char)} {signer : Signer} (h : Names ls signer) :
    signer? ls = some signer := by
  cases h with
  | gpg hrest hkey huser hkeyId =>
    rw [signer?, gpgSigner?, (findSome?_eq_some_iff field?_eq_some_iff).mpr hrest]
    simp only [Option.bind_eq_bind, Option.bind_some, cutsKey_iff.mp hkey, splitsUser_iff.mp huser,
      hasKeyId_iff.mp hkeyId, Option.some_or]
  | ssh hsilent hrest hprincipal =>
    rw [signer?, gpgSigner?, (findSome?_eq_none_iff field?_eq_some_iff).mpr hsilent, sshSigner?,
      (findSome?_eq_some_iff field?_eq_some_iff).mpr hrest]
    cases hprincipal with
    | key hcut hword hplain =>
      simp only [Option.bind_eq_bind, Option.bind_none, Option.bind_some, Option.none_or,
        cutAtText_eq_some_iff.mpr hcut, lastWord_eq_iff.mpr ⟨hword, hplain⟩,
        List.contains_iff_mem, Option.map_some]
    | alone hnot =>
      simp only [Option.bind_eq_bind, Option.bind_none, Option.bind_some, Option.none_or,
        cutAtText_eq_none_iff.mpr hnot, List.contains_iff_mem, Option.map_none]

/-- A line about a good signature names somebody, whatever follows its beginning. -/
theorem exists_names_of_first {ls : List (List Char)}
    (h : (∃ rest, First (HasField goodGpgStart) ls rest) ∨
      ∃ rest, First (HasField goodSshStart) ls rest) : ∃ signer, Names ls signer := by
  by_cases hgpg : ∃ rest, First (HasField goodGpgStart) ls rest
  · obtain ⟨rest, hrest⟩ := hgpg
    exact ⟨_, .gpg hrest (cutsKey_iff.mpr rfl) (splitsUser_iff.mpr rfl) (hasKeyId_iff.mpr rfl)⟩
  · obtain ⟨rest, hrest⟩ := h.resolve_left hgpg
    have hsilent := not_exists_first_iff_silent.mp hgpg
    cases hcut : cutAtText " with ".toList rest with
    | none => exact ⟨_, .ssh hsilent hrest (.alone (cutAtText_eq_none_iff.mp hcut))⟩
    | some cut =>
      obtain ⟨hword, hplain⟩ := lastWord_eq_iff.mp (rfl : lastWord cut.2 = lastWord cut.2)
      exact ⟨_, .ssh hsilent hrest (.key (cutAtText_eq_some_iff.mp hcut) hword hplain)⟩

theorem Names.exists_first {ls : List (List Char)} {signer : Signer} (h : Names ls signer) :
    (∃ rest, First (HasField goodGpgStart) ls rest) ∨
      ∃ rest, First (HasField goodSshStart) ls rest := by
  cases h with
  | gpg hrest _ _ _ => exact .inl ⟨_, hrest⟩
  | ssh _ hrest _ => exact .inr ⟨_, hrest⟩

theorem signer?_eq_some_iff {ls : List (List Char)} {signer : Signer} :
    signer? ls = some signer ↔ Names ls signer := by
  refine ⟨fun h => ?_, Names.signer?_eq⟩
  have hfirst : (∃ rest, First (HasField goodGpgStart) ls rest) ∨
      ∃ rest, First (HasField goodSshStart) ls rest := by
    by_contra hnone
    obtain ⟨hgpg, hssh⟩ := not_or.mp hnone
    rw [signer?, gpgSigner?, sshSigner?,
      (findSome?_eq_none_iff field?_eq_some_iff).mpr (not_exists_first_iff_silent.mp hgpg),
      (findSome?_eq_none_iff field?_eq_some_iff).mpr (not_exists_first_iff_silent.mp hssh)] at h
    cases h
  obtain ⟨other, hother⟩ := exists_names_of_first hfirst
  rw [hother.signer?_eq, Option.some.injEq] at h
  exact h ▸ hother

/-! ### What is wrong -/

/-- A status line reports a fault, whatever follows. -/
inductive ReportsFault (line : List Char) : VerifyFault → Prop
  | badSignature {more : List (List Char)} :
      words line = "[GNUPG:]".toList :: "BADSIG".toList :: more → ReportsFault line .badSignature
  | unknownKey {status : List Char} {more : List (List Char)} :
      status ∈ ["NO_PUBKEY".toList, "ERRSIG".toList] →
      words line = "[GNUPG:]".toList :: status :: more →
      ReportsFault line (.unknownKey (.ofList (more.headD [])))

/-- What a text without status lines says, in the order in which it is searched. -/
inductive TextFault (text : List Char) : VerifyFault → Prop
  | badSignature : "Signature verification failed".toList <:+: text → TextFault text .badSignature
  | noPrincipal : ¬"Signature verification failed".toList <:+: text →
      ("No principal matched".toList <:+: text ∨ "allowedSignersFile".toList <:+: text) →
      TextFault text (.unknownKey "no matching principal in gpg.ssh.allowedSignersFile")
  | unsigned : ¬"Signature verification failed".toList <:+: text →
      ¬("No principal matched".toList <:+: text ∨ "allowedSignersFile".toList <:+: text) →
      "no signature found".toList <:+: text →
      TextFault text (.unavailable "no signature found")
  | blank : isBlankText text → TextFault text (.unavailable "unrecognised verifier output")
  | other : ¬"Signature verification failed".toList <:+: text →
      ¬("No principal matched".toList <:+: text ∨ "allowedSignersFile".toList <:+: text) →
      ¬"no signature found".toList <:+: text → ¬isBlankText text →
      TextFault text (.unavailable (.ofList (trim text)))

theorem statusFault?_eq_some_iff (line : List Char) (fault : VerifyFault) :
    statusFault? line = some fault ↔ ReportsFault line fault := by
  rw [statusFault?]
  constructor
  · intro h
    split at h
    · rename_i tag status more hwords
      split at h
      · cases h
      · rename_i htag
        rw [not_not] at htag
        rw [htag] at hwords
        split at h
        · rename_i hstatus
          cases h
          exact .badSignature (hstatus ▸ hwords)
        · split at h
          · rename_i hstatus
            cases h
            exact .unknownKey (by simpa using hstatus) hwords
          · cases h
    · cases h
  · intro h
    cases h with
    | badSignature hwords => simp [hwords]
    | unknownKey hstatus hwords =>
      rw [List.mem_cons, List.mem_singleton] at hstatus
      rcases hstatus with rfl | rfl
      · simp [hwords]
      · simp [hwords]

theorem textFault_eq_iff {text : List Char} {fault : VerifyFault} :
    textFault text = fault ↔ TextFault text fault := by
  have hfault : TextFault text (textFault text) := by
    rw [textFault]
    simp only [Bool.or_eq_true, occurs_iff]
    split
    · rename_i hfailed
      exact .badSignature hfailed
    · rename_i hfailed
      split
      · rename_i hprincipal
        exact .noPrincipal hfailed hprincipal
      · rename_i hprincipal
        split
        · rename_i hunsigned
          exact .unsigned hfailed hprincipal hunsigned
        · rename_i hunsigned
          split
          · rename_i hblank
            exact .blank hblank
          · rename_i hblank
            exact .other hfailed hprincipal hunsigned hblank
  refine ⟨fun h => h ▸ hfault, fun h => ?_⟩
  rw [textFault]
  simp only [Bool.or_eq_true, occurs_iff]
  cases h with
  | badSignature hfailed => rw [if_pos hfailed]
  | noPrincipal hfailed hprincipal => rw [if_neg hfailed, if_pos hprincipal]
  | unsigned hfailed hprincipal hunsigned =>
    rw [if_neg hfailed, if_neg hprincipal, if_pos hunsigned]
  | other hfailed hprincipal hunsigned hblank =>
    rw [if_neg hfailed, if_neg hprincipal, if_neg hunsigned, if_neg hblank]
  | blank hblank =>
    -- Each of the texts that are searched for has a letter in it.
    have habsent : ∀ needle : List Char, needle.any (!isBlank ·) → ¬needle <:+: text := by
      intro needle hvisible hoccurs
      obtain ⟨c, hmem, hc⟩ := List.any_eq_true.mp hvisible
      exact not_isBlankText_of_mem (by simpa using hc) (hoccurs.subset hmem) hblank
    rw [if_neg (habsent _ (by decide)), if_neg (not_or.mpr ⟨habsent _ (by decide),
      habsent _ (by decide)⟩), if_neg (habsent _ (by decide)), if_pos hblank]

/-! ### Replies -/

/-- A fault is looked for where no signer is named. -/
def faultOf (text : List Char) : VerifyFault :=
  ((lines text).findSome? statusFault?).getD (textFault text)

theorem readReply_of_names {text : List Char} {signer : Signer} (h : Names (lines text) signer) :
    readReply true text = .ok signer := by
  simp only [readReply, if_true, h.signer?_eq]

theorem readReply_of_not_names {success : Bool} {text : List Char}
    (h : ¬(success = true ∧ ∃ signer, Names (lines text) signer)) :
    readReply success text = .error (faultOf text) := by
  have hnone : (if success then signer? (lines text) else none) = none := by
    cases success with
    | false => rfl
    | true =>
      refine Option.eq_none_iff_forall_ne_some.mpr fun signer hsigner => h ⟨rfl, signer, ?_⟩
      exact signer?_eq_some_iff.mp hsigner
  simp only [readReply, hnone, faultOf]
  cases (lines text).findSome? statusFault? <;> rfl

theorem readReply_eq_ok_iff {success : Bool} {text : List Char} {signer : Signer} :
    readReply success text = .ok signer ↔ success = true ∧ Names (lines text) signer := by
  by_cases h : success = true ∧ ∃ signer, Names (lines text) signer
  · obtain ⟨rfl, other, hother⟩ := h
    rw [readReply_of_names hother, Except.ok.injEq, and_iff_right rfl, ← signer?_eq_some_iff,
      hother.signer?_eq, Option.some.injEq]
  · rw [readReply_of_not_names h]
    exact iff_of_false (by simp) fun hnames => h ⟨hnames.1, signer, hnames.2⟩

theorem exists_readReply_eq_ok_iff {success : Bool} {text : List Char} :
    (∃ signer, readReply success text = .ok signer) ↔
      success = true ∧
        ∃ line ∈ lines text, goodGpgStart <+: trim line ∨ goodSshStart <+: trim line := by
  have hnames : (∃ signer, Names (lines text) signer) ↔
      ∃ line ∈ lines text, goodGpgStart <+: trim line ∨ goodSshStart <+: trim line := by
    simp only [and_or_left, exists_or, ← exists_first_hasField_iff]
    exact ⟨fun ⟨_, h⟩ => h.exists_first, exists_names_of_first⟩
  simp only [readReply_eq_ok_iff, exists_and_left, hnames]

theorem faultOf_eq_iff {text : List Char} {fault : VerifyFault} :
    faultOf text = fault ↔
      First ReportsFault (lines text) fault ∨
        (Silent ReportsFault (lines text) ∧ TextFault text fault) := by
  rw [faultOf, ← findSome?_eq_some_iff statusFault?_eq_some_iff,
    ← findSome?_eq_none_iff statusFault?_eq_some_iff, ← textFault_eq_iff]
  cases (lines text).findSome? statusFault? <;> simp

theorem readReply_eq_error_iff {success : Bool} {text : List Char} {fault : VerifyFault} :
    readReply success text = .error fault ↔
      (¬∃ signer, readReply success text = .ok signer) ∧
        (First ReportsFault (lines text) fault ∨
          (Silent ReportsFault (lines text) ∧ TextFault text fault)) := by
  rw [← faultOf_eq_iff]
  by_cases h : success = true ∧ ∃ signer, Names (lines text) signer
  · obtain ⟨rfl, signer, hsigner⟩ := h
    have hreply := readReply_of_names hsigner
    exact iff_of_false (by simp [hreply]) fun h => h.1 ⟨signer, hreply⟩
  · simp [readReply_of_not_names h]

/-! ### Lines that are not noticed -/

/-- A line does not start, blanks aside, like any that says something about a signer. -/
def IsIdle (line : List Char) : Prop :=
  ∀ start ∈ [goodGpgStart, goodSshStart, validGpgStart], ¬start <+: trim line

theorem field?_eq_none_iff {start line : List Char} :
    field? start line = none ↔ ¬start <+: trim line := by
  rw [eq_none_iff field?_eq_some_iff, ← exists_hasField_iff, not_exists]

section

variable {start : List Char} (hstart : start ≠ [])

include hstart

theorem findSome?_field?_of_isBlankText {ls : List (List Char)} (h : ∀ l ∈ ls, isBlankText l) :
    ls.findSome? (field? start) = none := by
  refine List.findSome?_eq_none_iff.mpr fun l hl => field?_eq_none_iff.mpr fun hprefix => ?_
  rw [trim_eq_nil_iff.mpr (h l hl)] at hprefix
  exact hstart (List.prefix_nil.mp hprefix)

theorem findSome?_field?_of_blankExtension {ls ls' : List (List Char)} (h : BlankExtension ls ls') :
    ls'.findSome? (field? start) = ls.findSome? (field? start) := by
  induction h with
  | blank hmore => exact findSome?_field?_of_isBlankText hstart hmore
  | last heq hmore =>
    rw [List.findSome?_cons, List.findSome?_cons, field?, trim_eq_of_trimEnd_eq heq, ← field?,
      findSome?_field?_of_isBlankText hstart hmore]
    rfl
  | cons l _ ih => rw [List.findSome?_cons, List.findSome?_cons, ih]

theorem findSome?_field?_of_insertsLines {extra text text' : List Char}
    (h : InsertsLines extra text text') (hextra : ∀ line ∈ lines extra, ¬start <+: trim line) :
    (lines text').findSome? (field? start) = (lines text).findSome? (field? start) := by
  obtain ⟨above, below, hext, hlines⟩ := h.exists_lines
  have hnone : (lines extra).findSome? (field? start) = none :=
    List.findSome?_eq_none_iff.mpr fun l hl => field?_eq_none_iff.mpr (hextra l hl)
  rw [← findSome?_field?_of_blankExtension hstart hext, hlines, List.findSome?_append,
    List.findSome?_append, hnone, Option.or_none, List.findSome?_append]

end

/-- Whom lines name depends only on what the three searches find. -/
theorem signer?_congr {ls ls' : List (List Char)}
    (h : ∀ start ∈ [goodGpgStart, goodSshStart, validGpgStart],
      ls'.findSome? (field? start) = ls.findSome? (field? start)) : signer? ls' = signer? ls := by
  have hgpg := h goodGpgStart (by simp)
  have hssh := h goodSshStart (by simp)
  have hkey : ls'.findSome? fingerprint? = ls.findSome? fingerprint? := by
    rw [findSome?_fingerprint?, findSome?_fingerprint?, h validGpgStart (by simp)]
  simp only [signer?, gpgSigner?, sshSigner?, hgpg, hssh, hkey]

theorem names_of_insertsLines {extra text text' : List Char} {signer : Signer}
    (h : InsertsLines extra text text') (hextra : ∀ line ∈ lines extra, IsIdle line)
    (hnames : Names (lines text) signer) : Names (lines text') signer := by
  rw [← signer?_eq_some_iff] at hnames ⊢
  refine (signer?_congr fun start hmem => ?_).trans hnames
  have hne : start ≠ [] := by
    rintro rfl
    exact absurd hmem (by decide)
  exact findSome?_field?_of_insertsLines hne h fun line hline => hextra line hline start hmem

/-- A text on the error stream with more lines in it that are not about a signer. -/
def AddsIdleLines (text text' : List Char) : Prop :=
  ∃ extra, InsertsLines extra text text' ∧ ∀ line ∈ lines extra, IsIdle line

theorem names_of_addsIdleLines {text text' : List Char} {signer : Signer}
    (h : Relation.ReflTransGen AddsIdleLines text text') (hnames : Names (lines text) signer) :
    Names (lines text') signer := by
  induction h with
  | refl => exact hnames
  | tail _ hstep ih =>
    obtain ⟨extra, hinserts, hextra⟩ := hstep
    exact names_of_insertsLines hinserts hextra ih

/-- A verification names a signer exactly if git succeeded and a line is about a good signature, and
then whomever the lines name. Where it names nobody, the first status line that reports a fault
decides, and the text as a whole only if there is none. Once somebody is named, lines that are not
about a signer change nothing, not even those that report a fault. This is what the verifier replies
about a commit that git can be asked about. -/
theorem readReply_exact (success : Bool) (text : List Char) :
    ((∃ signer, readReply success text = .ok signer) ↔
        success = true ∧
          ∃ line ∈ lines text, goodGpgStart <+: trim line ∨ goodSshStart <+: trim line) ∧
      (∀ signer, readReply success text = .ok signer ↔
        success = true ∧ Names (lines text) signer) ∧
      (∀ fault, readReply success text = .error fault ↔
        (¬∃ signer, readReply success text = .ok signer) ∧
          (First ReportsFault (lines text) fault ∨
            (Silent ReportsFault (lines text) ∧ TextFault text fault))) ∧
      (∀ signer text', readReply success text = .ok signer →
        Relation.ReflTransGen AddsIdleLines text text' → readReply success text' = .ok signer) ∧
      ∀ (errors : List UInt8) (c : Commit), decodeLossy errors = text → c.hash.isEmpty = false →
        c.hash.contains '\x00' = false →
        verify false (.finished success errors) c = readReply success text := by
  refine ⟨exists_readReply_eq_ok_iff, fun _ => readReply_eq_ok_iff, fun _ => readReply_eq_error_iff,
    fun signer text' h hadds => ?_, fun errors c htext hhash hnull => ?_⟩
  · rw [readReply_eq_ok_iff] at h ⊢
    exact h.imp_right (names_of_addsIdleLines hadds)
  · rw [verify, if_neg Bool.false_ne_true, hhash, hnull, if_neg Bool.false_ne_true,
      if_neg Bool.false_ne_true]
    exact congrArg (readReply success) htext

/-- A good signature below lines that report a fault and that nearly name somebody else. -/
theorem readReply_exact_noisy :
    let text := "[GNUPG:] GOODSIG AB Jo R <j@x.org>\n[GNUPG:] VALIDSIG 01 2 3".toList
    let extra := "[GNUPG:] BADSIG AB Jo\r\nGood git signature for ann\n".toList
    let signer : Signer := { name := "Jo R", email := some "j@x.org", keyId := some "01" }
    readReply true text = .ok signer ∧ Relation.ReflTransGen AddsIdleLines text (extra ++ text) ∧
      readReply true (extra ++ text) = .ok signer := by
  intro text extra signer
  have hreply : readReply true text = .ok signer := by rfl
  have hends : EndsLine extra :=
    .inr ⟨"[GNUPG:] BADSIG AB Jo\r\nGood git signature for ann".toList, by decide⟩
  have hidle : ∀ line ∈ lines extra, ∀ start ∈ [goodGpgStart, goodSshStart, validGpgStart],
      ¬start <+: trim line := by decide
  have hadds : Relation.ReflTransGen AddsIdleLines text (extra ++ text) :=
    .single ⟨extra, .between (.inl rfl) (.inl hends), hidle⟩
  exact ⟨hreply, hadds, (readReply_exact true text).2.2.2.1 signer _ hreply hadds⟩

/-- What is blank is not handed on as a reason: it gets a reason of its own. -/
theorem not_forall_unavailable_trim :
    ¬∀ (success : Bool) (text : List Char), (¬∃ signer, readReply success text = .ok signer) →
      Silent ReportsFault (lines text) →
      (∀ needle ∈ ["Signature verification failed", "No principal matched", "allowedSignersFile",
        "no signature found"], ¬needle.toList <:+: text) →
      readReply success text = .error (.unavailable (.ofList (trim text))) := by
  intro h
  have hblank : readReply false [] = .error (.unavailable "unrecognised verifier output") := by rfl
  have hreply := h false [] (by simp [hblank]) (List.forall_mem_nil _) (by decide)
  rw [hblank, Except.error.injEq, VerifyFault.unavailable.injEq] at hreply
  exact absurd hreply (by decide)

end CommitLint.Verification
