import CommitLint.Envelope.Verdict
import CommitLint.Proofs.Base64
import CommitLint.Proofs.Text.Find
import CommitLint.Proofs.Text.Trim
import CommitLint.Proofs.Text.Utf8
import Mathlib.Tactic.SplitIfs

/-!
# The envelopes of SSH signatures

Without the marker of a PGP signature an envelope is one of two forms, or neither. Both forms carry
a blob in Base64, and the checks of the blob are the same, except that only one between markers has
to begin with the magic bytes: `checkBlob` takes these bytes as an argument, and both checks of the
envelope come down to it (`checkArmoredSsh_of_isPayload`, `checkShorthand_of_isShorthandOf`).

What a blob has to be is said without the decoder: its symbols are the encoding of some bytes. Since
decoding accepts exactly what encoding produces, `checkBlob` refuses whatever has no such bytes.
-/

namespace CommitLint.Envelope

open Text

/-! ### Blobs -/

/-- A text is the Base64 of a blob, as encoding writes it. -/
def Encodes (symbols : List Char) (blob : List UInt8) : Prop := encode symbols = Base64.encode blob

/-- A text is the Base64 of a blob that begins with given bytes and is long enough. -/
def IsSoundBlob (magic : List UInt8) (symbols : List Char) : Prop :=
  ∃ blob, Encodes symbols blob ∧ magic <+: blob ∧ 50 ≤ blob.length

/-- Why a text is no sound blob: the first of three checks that fails. -/
inductive RefusesBlob (magic : List UInt8) (symbols : List Char) : Fault → Prop
  | notBase64 {fault : Base64.Fault} : (∀ blob, ¬Encodes symbols blob) →
      Base64.decode (encode symbols) = .error fault →
      RefusesBlob magic symbols (.badBlob (.notBase64 fault))
  | missingMagic {blob : List UInt8} : Encodes symbols blob → ¬magic <+: blob →
      RefusesBlob magic symbols .missingMagic
  | tooShort {blob : List UInt8} : Encodes symbols blob → magic <+: blob → blob.length < 50 →
      RefusesBlob magic symbols (.tooShort blob.length)

/-- Check the blob of a text. -/
def checkBlob (magic : List UInt8) (symbols : List Char) : Except Fault Unit := do
  let blob ← decodeBlob symbols
  if (magic.isPrefixOf blob) = false then .error .missingMagic
  else if blob.length < minBlobLength then .error (.tooShort blob.length)
  else .ok ()

theorem encodes_iff {symbols : List Char} {blob : List UInt8} :
    Encodes symbols blob ↔ Base64.decode (encode symbols) = .ok blob :=
  Base64.decode_eq_ok_iff.symm

theorem Encodes.unique {symbols : List Char} {blob blob' : List UInt8} (h : Encodes symbols blob)
    (h' : Encodes symbols blob') : blob' = blob := by
  have heq := (encodes_iff.mp h').symm.trans (encodes_iff.mp h)
  rwa [Except.ok.injEq] at heq

theorem checkBlob_of_decode_error {magic : List UInt8} {symbols : List Char} {fault : Base64.Fault}
    (h : Base64.decode (encode symbols) = .error fault) :
    checkBlob magic symbols = .error (.badBlob (.notBase64 fault)) := by
  rw [checkBlob, decodeBlob, h]
  rfl

theorem checkBlob_of_encodes {magic : List UInt8} {symbols : List Char} {blob : List UInt8}
    (h : Encodes symbols blob) :
    checkBlob magic symbols =
      if magic <+: blob then
        if blob.length < 50 then .error (.tooShort blob.length) else .ok ()
      else .error .missingMagic := by
  rw [checkBlob, decodeBlob, encodes_iff.mp h]
  simp only [← Bool.not_eq_true, List.isPrefixOf_iff_prefix, ite_not]
  rfl

/-- A blob is accepted exactly if it is sound. -/
theorem checkBlob_eq_ok_iff {magic : List UInt8} {symbols : List Char} :
    checkBlob magic symbols = .ok () ↔ IsSoundBlob magic symbols := by
  cases hdecode : Base64.decode (encode symbols) with
  | error fault =>
    refine iff_of_false (by simp [checkBlob_of_decode_error hdecode]) ?_
    rintro ⟨blob, hblob, -⟩
    rw [encodes_iff.mp hblob] at hdecode
    cases hdecode
  | ok blob =>
    have hblob := encodes_iff.mpr hdecode
    rw [checkBlob_of_encodes hblob]
    constructor
    · intro h
      split_ifs at h with hmagic hlength
      exact ⟨blob, hblob, hmagic, Nat.not_lt.mp hlength⟩
    · rintro ⟨blob', hblob', hmagic, hlength⟩
      obtain rfl := hblob.unique hblob'
      rw [if_pos hmagic, if_neg (Nat.not_lt.mpr hlength)]

/-- A blob is refused by the first check that fails. -/
theorem checkBlob_eq_error_iff {magic : List UInt8} {symbols : List Char} {fault : Fault} :
    checkBlob magic symbols = .error fault ↔ RefusesBlob magic symbols fault := by
  constructor
  · intro h
    cases hdecode : Base64.decode (encode symbols) with
    | error e =>
      rw [checkBlob_of_decode_error hdecode] at h
      cases h
      refine .notBase64 (fun blob hblob => ?_) hdecode
      rw [encodes_iff.mp hblob] at hdecode
      cases hdecode
    | ok blob =>
      have hblob := encodes_iff.mpr hdecode
      rw [checkBlob_of_encodes hblob] at h
      split_ifs at h with hmagic hlength
      · cases h
        exact .tooShort hblob hmagic hlength
      · cases h
        exact .missingMagic hblob hmagic
  · intro h
    cases h with
    | notBase64 _ hdecode => exact checkBlob_of_decode_error hdecode
    | missingMagic hblob hmagic => rw [checkBlob_of_encodes hblob, if_neg hmagic]
    | tooShort hblob hmagic hlength =>
      rw [checkBlob_of_encodes hblob, if_pos hmagic, if_pos hlength]

/-! ### Between markers -/

/-- The text between the first marker before a signature and the first marker after that one,
without its blanks. -/
def IsPayload (text payload : List Char) : Prop :=
  ∃ before after between rest, IsFirstCut sshBegin text before after ∧
    IsFirstCut sshEnd after between rest ∧ payload = between.filter (!isBlank ·)

/-- A marker before a signature, but none after it. -/
def IsUnclosed (text : List Char) : Prop :=
  ∃ before after, IsFirstCut sshBegin text before after ∧ ¬sshEnd <:+: after

theorem checkArmoredSsh_of_isUnclosed {text : List Char} (h : IsUnclosed text) :
    checkArmoredSsh text = .error .missingEnd := by
  obtain ⟨before, after, hbegin, hend⟩ := h
  rw [checkArmoredSsh, cutAtText_eq_some_iff.mpr hbegin]
  dsimp only
  rw [cutAtText_eq_none_iff.mpr hend]

theorem checkArmoredSsh_of_isPayload {text payload : List Char} (h : IsPayload text payload) :
    checkArmoredSsh text =
      if payload = [] then .error (.badBlob .nothingBetweenMarkers)
      else checkBlob sshMagic payload := by
  obtain ⟨before, after, between, rest, hbegin, hend, rfl⟩ := h
  rw [checkArmoredSsh, cutAtText_eq_some_iff.mpr hbegin]
  dsimp only
  rw [cutAtText_eq_some_iff.mpr hend]
  dsimp only
  rw [checkBetween]
  simp only [List.isEmpty_iff]
  rfl

/-- What follows a marker is closed or not. -/
theorem exists_isPayload_or_isUnclosed {text : List Char} (h : sshBegin <:+: text) :
    (∃ payload, IsPayload text payload) ∨ IsUnclosed text := by
  cases hbegin : cutAtText sshBegin text with
  | none => exact absurd h (cutAtText_eq_none_iff.mp hbegin)
  | some cut =>
    obtain ⟨before, after⟩ := cut
    have hfirst := cutAtText_eq_some_iff.mp hbegin
    cases hend : cutAtText sshEnd after with
    | none => exact .inr ⟨before, after, hfirst, cutAtText_eq_none_iff.mp hend⟩
    | some cut =>
      obtain ⟨between, rest⟩ := cut
      exact .inl ⟨_, before, after, between, rest, hfirst, cutAtText_eq_some_iff.mp hend, rfl⟩

/-! ### After an algorithm -/

/-- The name of an algorithm: more than four bytes without blanks, with one of three beginnings. -/
structure IsAlgorithmName (name : List Char) : Prop where
  length : 4 < (encode name).length
  notBlank : ∀ c ∈ name, isBlank c = false
  start : "ssh-".toList <+: name ∨ "ecdsa-".toList <+: name ∨ "sk-".toList <+: name

/-- A text is, blanks around it aside, the name of an algorithm, a colon and something more. -/
structure IsShorthandOf (text algorithm symbols : List Char) : Prop where
  eq : trim text = algorithm ++ ':' :: symbols
  first : ':' ∉ algorithm
  algorithm : IsAlgorithmName algorithm
  ne_nil : symbols ≠ []

theorem isAlgorithm_iff {name : List Char} : isAlgorithm name = true ↔ IsAlgorithmName name := by
  simp only [isAlgorithm, algorithmStarts, List.any_cons, List.any_nil, Bool.or_false,
    Bool.and_eq_true, Bool.or_eq_true, startsWith_iff, decide_eq_true_eq, ← length_encode,
    Bool.not_eq_true', List.any_eq_false, Bool.not_eq_true]
  exact ⟨fun ⟨⟨hstart, hlength⟩, hblank⟩ => ⟨hlength, hblank, hstart⟩,
    fun h => ⟨⟨h.start, h.length⟩, h.notBlank⟩⟩

theorem isShorthand_iff {text : List Char} :
    isShorthand text = true ↔ ∃ algorithm symbols, IsShorthandOf text algorithm symbols := by
  rw [isShorthand]
  cases hcut : cutAt ':' (trim text) with
  | none =>
    refine iff_of_false (by simp) ?_
    rintro ⟨algorithm, symbols, h⟩
    rw [cutAt_eq_some_iff.mpr ⟨h.eq, h.first⟩] at hcut
    cases hcut
  | some cut =>
    obtain ⟨algorithm, symbols⟩ := cut
    obtain ⟨heq, hfirst⟩ := cutAt_eq_some_iff.mp hcut
    simp only [Bool.and_eq_true, isAlgorithm_iff, Bool.not_eq_true', List.isEmpty_eq_false_iff]
    constructor
    · rintro ⟨halgorithm, hne⟩
      exact ⟨algorithm, symbols, heq, hfirst, halgorithm, hne⟩
    · rintro ⟨algorithm', symbols', h⟩
      have hcut' := cutAt_eq_some_iff.mpr ⟨h.eq, h.first⟩
      rw [hcut] at hcut'
      cases hcut'
      exact ⟨h.algorithm, h.ne_nil⟩

/-- Something stands after the colon, so its symbols cannot spell an empty blob. -/
theorem checkShorthand_of_isShorthandOf {text algorithm symbols : List Char}
    (h : IsShorthandOf text algorithm symbols) :
    checkShorthand text = checkBlob [] (trim symbols) := by
  have htrim : trim text = algorithm ++ [':'] ++ symbols := by simpa using h.eq
  have hne : trim symbols ≠ [] := trim_ne_nil_of_trim_eq_append htrim h.ne_nil
  rw [checkShorthand, cutAt_eq_some_iff.mpr ⟨h.eq, h.first⟩]
  dsimp only
  cases hdecode : Base64.decode (encode (trim symbols)) with
  | error fault => rw [checkBlob_of_decode_error hdecode, decodeBlob, hdecode]; rfl
  | ok blob =>
    have hblob := encodes_iff.mpr hdecode
    have hnonempty : blob ≠ [] := by
      rintro rfl
      exact hne (encode_eq_nil_iff.mp hblob)
    rw [checkBlob_of_encodes hblob, if_pos List.nil_prefix, decodeBlob, hdecode]
    simp only [Except.mapError, bind, Except.bind]
    rw [if_neg (by simpa using hnonempty)]
    rfl

/-! ### Verdicts -/

/-- A sound blob between markers. -/
def IsSoundArmored (text : List Char) : Prop :=
  ∃ payload, IsPayload text payload ∧ IsSoundBlob sshMagic payload

/-- A sound blob after the name of an algorithm, in a text without a marker. -/
def IsSoundShorthand (text : List Char) : Prop :=
  ¬sshBegin <:+: text ∧ ∃ algorithm symbols, IsShorthandOf text algorithm symbols ∧
    IsSoundBlob [] (trim symbols)

/-- Why a text is no SSH signature: the first check that fails in the form that it has. -/
inductive Refuses (text : List Char) : Kind → Fault → Prop
  | blank : isBlankText text → Refuses text .unknown .empty
  | unclosed : IsUnclosed text → Refuses text .ssh .missingEnd
  | noPayload : IsPayload text [] → Refuses text .ssh (.badBlob .nothingBetweenMarkers)
  | armored {payload : List Char} {fault : Fault} : IsPayload text payload → payload ≠ [] →
      RefusesBlob sshMagic payload fault → Refuses text .ssh fault
  | shorthand {algorithm symbols : List Char} {fault : Fault} : ¬sshBegin <:+: text →
      IsShorthandOf text algorithm symbols → RefusesBlob [] (trim symbols) fault →
      Refuses text .ssh fault
  | neither : ¬isBlankText text → ¬sshBegin <:+: text →
      (∀ algorithm symbols, ¬IsShorthandOf text algorithm symbols) →
      Refuses text .unknown .unknownFormat

theorem IsPayload.sshBegin_isInfix {text payload : List Char} (h : IsPayload text payload) :
    sshBegin <:+: text := by
  obtain ⟨before, after, _, _, hbegin, -⟩ := h
  exact ⟨before, after, hbegin.eq.symm⟩

theorem IsUnclosed.sshBegin_isInfix {text : List Char} (h : IsUnclosed text) :
    sshBegin <:+: text := by
  obtain ⟨before, after, hbegin, -⟩ := h
  exact ⟨before, after, hbegin.eq.symm⟩

theorem not_isBlankText_of_sshBegin {text : List Char} (h : sshBegin <:+: text) :
    ¬isBlankText text := not_isBlankText_of_mem (c := '-') (by decide) (h.subset (by decide))

theorem IsShorthandOf.not_isBlankText {text algorithm symbols : List Char}
    (h : IsShorthandOf text algorithm symbols) : ¬isBlankText text := by
  intro hblank
  have heq := h.eq
  rw [trim_eq_nil_iff.mpr hblank] at heq
  simp at heq

/-- Either an envelope is sound, or there is a reason to refuse it. -/
theorem isSound_or_refuses (text : List Char) :
    (IsSoundArmored text ∨ IsSoundShorthand text) ∨ ∃ kind fault, Refuses text kind fault := by
  by_cases hblank : isBlankText text
  · exact .inr ⟨_, _, .blank hblank⟩
  by_cases hbegin : sshBegin <:+: text
  · rcases exists_isPayload_or_isUnclosed hbegin with ⟨payload, hpayload⟩ | hunclosed
    · by_cases hne : payload = []
      · exact .inr ⟨_, _, .noPayload (hne ▸ hpayload)⟩
      · cases hcheck : checkBlob sshMagic payload with
        | ok _ => exact .inl (.inl ⟨payload, hpayload, checkBlob_eq_ok_iff.mp hcheck⟩)
        | error fault =>
          exact .inr ⟨_, _, .armored hpayload hne (checkBlob_eq_error_iff.mp hcheck)⟩
    · exact .inr ⟨_, _, .unclosed hunclosed⟩
  by_cases hform : ∃ algorithm symbols, IsShorthandOf text algorithm symbols
  · obtain ⟨algorithm, symbols, hform⟩ := hform
    cases hcheck : checkBlob [] (trim symbols) with
    | ok _ =>
      exact .inl (.inr ⟨hbegin, algorithm, symbols, hform, checkBlob_eq_ok_iff.mp hcheck⟩)
    | error fault =>
      exact .inr ⟨_, _, .shorthand hbegin hform (checkBlob_eq_error_iff.mp hcheck)⟩
  · exact .inr ⟨_, _, .neither hblank hbegin fun algorithm symbols h => hform ⟨_, _, h⟩⟩

section Judge

variable {text : List Char} (hpgp : ¬pgpBegin <:+: text)
include hpgp

theorem judge_of_sshBegin (h : sshBegin <:+: text) :
    judge text = ⟨.ssh, faultOf (checkArmoredSsh text)⟩ := by
  have hclassify : classify text = .ssh := by
    rw [classify, if_neg (mt occurs_iff.mp hpgp), occurs_iff.mpr h]
    rfl
  rw [judge, if_neg (not_isBlankText_of_sshBegin h), hclassify, checkAs,
    if_pos (occurs_iff.mpr h)]

theorem judge_of_isShorthandOf {algorithm symbols : List Char} (hbegin : ¬sshBegin <:+: text)
    (h : IsShorthandOf text algorithm symbols) :
    judge text = ⟨.ssh, faultOf (checkBlob [] (trim symbols))⟩ := by
  have hclassify : classify text = .ssh := by
    rw [classify, if_neg (mt occurs_iff.mp hpgp), isShorthand_iff.mpr ⟨_, _, h⟩, Bool.or_true]
    rfl
  rw [judge, if_neg h.not_isBlankText, hclassify, checkAs, if_neg (mt occurs_iff.mp hbegin),
    checkShorthand_of_isShorthandOf h]

theorem judge_of_neither (hblank : ¬isBlankText text) (hbegin : ¬sshBegin <:+: text)
    (h : ∀ algorithm symbols, ¬IsShorthandOf text algorithm symbols) :
    judge text = ⟨.unknown, some .unknownFormat⟩ := by
  have hshorthand : ¬isShorthand text = true := by
    rw [isShorthand_iff]
    rintro ⟨algorithm, symbols, hform⟩
    exact h algorithm symbols hform
  have hclassify : classify text = .unknown := by
    rw [classify, if_neg (mt occurs_iff.mp hpgp), if_neg]
    rw [Bool.or_eq_true, not_or]
    exact ⟨mt occurs_iff.mp hbegin, hshorthand⟩
  rw [judge, if_neg hblank, hclassify]
  rfl

theorem judge_of_isPayload {payload : List Char} (h : IsPayload text payload) (hne : payload ≠ []) :
    judge text = ⟨.ssh, faultOf (checkBlob sshMagic payload)⟩ := by
  rw [judge_of_sshBegin hpgp h.sshBegin_isInfix, checkArmoredSsh_of_isPayload h, if_neg hne]

theorem judge_of_isSoundArmored (h : IsSoundArmored text) : judge text = ⟨.ssh, none⟩ := by
  obtain ⟨payload, hpayload, hsound⟩ := h
  have hne : payload ≠ [] := by
    rintro rfl
    obtain ⟨blob, hblob, -, hlength⟩ := hsound
    have hnil : Encodes [] [] := rfl
    rw [hnil.unique hblob] at hlength
    exact absurd hlength (by decide)
  rw [judge_of_isPayload hpgp hpayload hne, checkBlob_eq_ok_iff.mpr hsound]
  rfl

theorem judge_of_isSoundShorthand (h : IsSoundShorthand text) : judge text = ⟨.ssh, none⟩ := by
  obtain ⟨hbegin, algorithm, symbols, hform, hsound⟩ := h
  rw [judge_of_isShorthandOf hpgp hbegin hform, checkBlob_eq_ok_iff.mpr hsound]
  rfl

theorem judge_of_refuses {kind : Kind} {fault : Fault} (h : Refuses text kind fault) :
    judge text = ⟨kind, some fault⟩ := by
  cases h with
  | blank hblank => rw [judge, if_pos hblank]
  | unclosed hunclosed =>
    rw [judge_of_sshBegin hpgp hunclosed.sshBegin_isInfix, checkArmoredSsh_of_isUnclosed hunclosed]
    rfl
  | noPayload hpayload =>
    rw [judge_of_sshBegin hpgp hpayload.sshBegin_isInfix, checkArmoredSsh_of_isPayload hpayload]
    rfl
  | armored hpayload hne hfault =>
    rw [judge_of_isPayload hpgp hpayload hne, checkBlob_eq_error_iff.mpr hfault]
    rfl
  | shorthand hbegin hform hfault =>
    rw [judge_of_isShorthandOf hpgp hbegin hform, checkBlob_eq_error_iff.mpr hfault]
    rfl
  | neither hblank hbegin hform => exact judge_of_neither hpgp hblank hbegin hform

theorem judge_of_isSound (h : IsSoundArmored text ∨ IsSoundShorthand text) :
    judge text = ⟨.ssh, none⟩ :=
  h.elim (judge_of_isSoundArmored hpgp) (judge_of_isSoundShorthand hpgp)

end Judge

end CommitLint.Envelope
