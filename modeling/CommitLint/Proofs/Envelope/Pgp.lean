import CommitLint.Envelope.Verdict
import CommitLint.Proofs.Armor
import Mathlib.Tactic.SplitIfs

/-!
# The envelopes of PGP signatures

A text with the marker of a PGP signature is judged by its first armored block and by nothing else.
The block has to be there, to be readable, to be of the kind of a detached signature, and to hold a
packet, in this order: `IsSoundPgp` says what is accepted, `RefusesPgp` lists the ways to fail, and
`judge` decides between them. What stands around a block that is the first one cannot be heard
(`IsBlock.decode_append_append`), be it other blocks or broken ones.

The reader of armor counts here as a function of the block. What it has to give is said without the
arithmetic on bits of `firstPacketTag`: the first byte is a sum of a tag and of what marks its
format.
-/

namespace CommitLint.Envelope

open Text

/-! ### Packets -/

/-- The first byte of a packet names its tag in one of two formats. The new one has room for
sixty-four tags, the old one for sixteen, beside the kind of length that follows. -/
inductive HasTag (b : UInt8) : Nat → Prop
  | newFormat {tag : Nat} : tag < 64 → b.toNat = 192 + tag → HasTag b tag
  | oldFormat {tag lengthType : Nat} : tag < 16 → lengthType < 4 →
      b.toNat = 128 + 4 * tag + lengthType → HasTag b tag

/-- Why a payload does not begin with a packet. -/
inductive LacksPacket : List UInt8 → PacketFault → Prop
  | noPayload : LacksPacket [] .noPayload
  | notATag {b : UInt8} {rest : List UInt8} : (∀ tag, ¬HasTag b tag) →
      LacksPacket (b :: rest) (.notATag b)
  | truncated {b : UInt8} {tag : Nat} : HasTag b tag → LacksPacket [b] .truncated
  | reservedTag {b c : UInt8} {rest : List UInt8} : HasTag b 0 →
      LacksPacket (b :: c :: rest) .reservedTag

/-- A payload begins with a packet of a tag that is not reserved, and does not end with its first
byte. -/
def HasPacket (data : List UInt8) : Prop :=
  ∃ b c rest tag, data = b :: c :: rest ∧ HasTag b tag ∧ tag ≠ 0

theorem hasTag_iff {b : UInt8} {tag : Nat} :
    HasTag b tag ↔ 128 ≤ b.toNat ∧ tagOfByte b = tag := by
  have hlt := b.toNat_lt
  rw [tagOfByte]
  constructor
  · rintro (⟨htag, hb⟩ | ⟨htag, hlength, hb⟩)
    · rw [if_pos (by omega)]
      omega
    · rw [if_neg (by omega)]
      omega
  · rintro ⟨htop, htag⟩
    split_ifs at htag with hformat
    · exact .newFormat (by omega) (by omega)
    · exact @HasTag.oldFormat b tag (b.toNat % 4) (by omega) (by omega) (by omega)

theorem exists_hasTag_iff {b : UInt8} : (∃ tag, HasTag b tag) ↔ 128 ≤ b.toNat := by
  simp only [hasTag_iff, exists_and_left, exists_eq', and_true]

/-- The first tag of a payload that does not end with its first byte. -/
theorem firstPacketTag_of_hasTag {b c : UInt8} {rest : List UInt8} {tag : Nat} (h : HasTag b tag) :
    firstPacketTag (b :: c :: rest) = if tag = 0 then .error .reservedTag else .ok tag := by
  obtain ⟨htop, rfl⟩ := hasTag_iff.mp h
  rw [firstPacketTag, if_neg (Nat.not_lt.mpr htop)]
  rfl

theorem firstPacketTag_of_lacksPacket {data : List UInt8} {fault : PacketFault}
    (h : LacksPacket data fault) : firstPacketTag data = .error fault := by
  cases h with
  | noPayload => rfl
  | notATag hnone =>
    have hlow : _ < 128 := Nat.not_le.mp (mt exists_hasTag_iff.mpr (not_exists.mpr hnone))
    rw [firstPacketTag, if_pos hlow]
  | truncated htag =>
    rw [firstPacketTag, if_neg (Nat.not_lt.mpr (hasTag_iff.mp htag).1)]
    rfl
  | reservedTag htag => rw [firstPacketTag_of_hasTag htag, if_pos rfl]

theorem firstPacketTag_of_hasPacket {data : List UInt8} (h : HasPacket data) :
    ∃ tag, firstPacketTag data = .ok tag := by
  obtain ⟨b, c, rest, tag, rfl, htag, hne⟩ := h
  exact ⟨tag, by rw [firstPacketTag_of_hasTag htag, if_neg hne]⟩

/-- Either a payload begins with a packet, or there is a reason why not. -/
theorem hasPacket_or_lacksPacket :
    ∀ data : List UInt8, HasPacket data ∨ ∃ fault, LacksPacket data fault
  | [] => .inr ⟨_, .noPayload⟩
  | b :: rest => by
    by_cases htag : ∃ tag, HasTag b tag
    · obtain ⟨tag, htag⟩ := htag
      cases rest with
      | nil => exact .inr ⟨_, .truncated htag⟩
      | cons c rest =>
        by_cases hzero : tag = 0
        · exact .inr ⟨_, .reservedTag (hzero ▸ htag)⟩
        · exact .inl ⟨b, c, rest, tag, rfl, htag, hzero⟩
    · exact .inr ⟨_, .notATag (not_exists.mp htag)⟩

/-! ### Verdicts -/

/-- The first block of a text is a signature and begins with a packet. -/
def IsSoundPgp (text : List Char) : Prop :=
  ∃ blockType block data, Armor.IsFirstBlock text blockType block ∧
    Armor.dearmor block = .ok (Armor.signatureKind, data) ∧ HasPacket data

/-- Why a text with the marker of a PGP signature is refused: the first check that fails. -/
inductive RefusesPgp (text : List Char) : Fault → Prop
  | lacksBlock {fault : Armor.Fault} : Armor.LacksBlock text fault →
      RefusesPgp text (.badArmor fault)
  | undecodable {blockType block : List Char} {fault : Armor.Fault} :
      Armor.IsFirstBlock text blockType block → Armor.dearmor block = .error fault →
      RefusesPgp text (.badArmor fault)
  | emptyBody {blockType block : List Char} {kind : Armor.BlockKind} :
      Armor.IsFirstBlock text blockType block → Armor.dearmor block = .ok (kind, []) →
      RefusesPgp text (.badArmor .emptyBody)
  | wrongBlockType {blockType block : List Char} {kind : Armor.BlockKind} {data : List UInt8} :
      Armor.IsFirstBlock text blockType block → Armor.dearmor block = .ok (kind, data) →
      data ≠ [] → kind ≠ Armor.signatureKind → RefusesPgp text (.wrongBlockType (.ofList blockType))
  | lacksPacket {blockType block : List Char} {data : List UInt8} {fault : PacketFault} :
      Armor.IsFirstBlock text blockType block →
      Armor.dearmor block = .ok (Armor.signatureKind, data) → data ≠ [] →
      LacksPacket data fault → RefusesPgp text (.noPacket fault)

/-- Either the first block of a text is sound, or there is a reason to refuse the text. -/
theorem isSoundPgp_or_refusesPgp (text : List Char) :
    IsSoundPgp text ∨ ∃ fault, RefusesPgp text fault := by
  rcases Armor.isFirstBlock_or_lacksBlock text with ⟨blockType, block, hblock⟩ | ⟨fault, hlacks⟩
  · cases hdearmor : Armor.dearmor block with
    | error fault => exact .inr ⟨_, .undecodable hblock hdearmor⟩
    | ok read =>
      obtain ⟨kind, data⟩ := read
      by_cases hdata : data = []
      · exact .inr ⟨_, .emptyBody hblock (hdata ▸ hdearmor)⟩
      by_cases hkind : kind = Armor.signatureKind
      · subst hkind
        rcases hasPacket_or_lacksPacket data with hpacket | ⟨fault, hlacks⟩
        · exact .inl ⟨blockType, block, data, hblock, hdearmor, hpacket⟩
        · exact .inr ⟨_, .lacksPacket hblock hdearmor hdata hlacks⟩
      · exact .inr ⟨_, .wrongBlockType hblock hdearmor hdata hkind⟩
  · exact .inr ⟨_, .lacksBlock hlacks⟩

/-- What the reader of armor gives for the first block decides about the text. -/
theorem decode_of_dearmor {text blockType block : List Char} {kind : Armor.BlockKind}
    {data : List UInt8} (hblock : Armor.IsFirstBlock text blockType block)
    (hdearmor : Armor.dearmor block = .ok (kind, data)) :
    Armor.decode text =
      if data.isEmpty then .error .emptyBody
      else .ok ⟨.ofList blockType, kind = Armor.signatureKind, data⟩ := by
  rw [Armor.decode, Armor.firstBlock_eq_ok_iff.mpr hblock]
  simp only [bind, Except.bind]
  rw [Armor.blockOf, hdearmor]
  rfl

theorem checkPgp_of_isSoundPgp {text : List Char} (h : IsSoundPgp text) :
    checkPgp text = .ok () := by
  obtain ⟨blockType, block, data, hblock, hdearmor, hpacket⟩ := h
  obtain ⟨tag, htag⟩ := firstPacketTag_of_hasPacket hpacket
  obtain ⟨b, c, rest, _, rfl, -⟩ := hpacket
  rw [checkPgp, decode_of_dearmor hblock hdearmor, List.isEmpty_cons, if_neg Bool.false_ne_true]
  simp only [checkBlock, Except.mapError, bind, Except.bind, decide_true, htag]
  rfl

theorem checkPgp_of_refusesPgp {text : List Char} {fault : Fault} (h : RefusesPgp text fault) :
    checkPgp text = .error fault := by
  cases h with
  | lacksBlock hlacks =>
    rw [checkPgp, Armor.decode, Armor.firstBlock_eq_error_iff.mpr hlacks]
    rfl
  | undecodable hblock hdearmor =>
    rw [checkPgp, Armor.decode, Armor.firstBlock_eq_ok_iff.mpr hblock]
    simp only [bind, Except.bind]
    rw [Armor.blockOf, hdearmor]
    rfl
  | emptyBody hblock hdearmor =>
    rw [checkPgp, decode_of_dearmor hblock hdearmor]
    rfl
  | wrongBlockType hblock hdearmor hdata hkind =>
    rw [checkPgp, decode_of_dearmor hblock hdearmor, if_neg (by simpa using hdata)]
    simp only [checkBlock, Except.mapError, bind, Except.bind, decide_eq_false hkind]
    rfl
  | lacksPacket hblock hdearmor hdata hlacks =>
    rw [checkPgp, decode_of_dearmor hblock hdearmor, if_neg (by simpa using hdata)]
    simp only [checkBlock, Except.mapError, bind, Except.bind, decide_true,
      firstPacketTag_of_lacksPacket hlacks]
    rfl

theorem classify_eq_gpg_iff {text : List Char} : classify text = .gpg ↔ pgpBegin <:+: text := by
  rw [classify, ← occurs_iff]
  split_ifs <;> simp_all

section Judge

variable {text : List Char} (hpgp : pgpBegin <:+: text)
include hpgp

theorem judge_of_pgpBegin : judge text = ⟨.gpg, faultOf (checkPgp text)⟩ := by
  have hblank : ¬isBlankText text :=
    not_isBlankText_of_mem (c := '-') (by decide) (hpgp.subset (by decide))
  rw [judge, if_neg hblank, classify_eq_gpg_iff.mpr hpgp, checkAs]

theorem judge_of_isSoundPgp (h : IsSoundPgp text) : judge text = ⟨.gpg, none⟩ := by
  rw [judge_of_pgpBegin hpgp, checkPgp_of_isSoundPgp h]
  rfl

theorem judge_of_refusesPgp {fault : Fault} (h : RefusesPgp text fault) :
    judge text = ⟨.gpg, some fault⟩ := by
  rw [judge_of_pgpBegin hpgp, checkPgp_of_refusesPgp h]
  rfl

/-- Soundness and the reasons to refuse determine the verdict, and the verdict them. -/
theorem judge_iff_of_pgpBegin :
    (judge text = ⟨.gpg, none⟩ ↔ IsSoundPgp text) ∧
      ∀ kind fault, judge text = ⟨kind, some fault⟩ ↔ kind = .gpg ∧ RefusesPgp text fault := by
  rcases isSoundPgp_or_refusesPgp text with hsound | ⟨fault, hrefuses⟩
  · have hjudge := judge_of_isSoundPgp hpgp hsound
    refine ⟨iff_of_true hjudge hsound, fun kind fault => iff_of_false (by simp [hjudge]) ?_⟩
    rintro ⟨-, hrefuses⟩
    rw [judge_of_refusesPgp hpgp hrefuses] at hjudge
    cases hjudge
  · have hjudge := judge_of_refusesPgp hpgp hrefuses
    refine ⟨iff_of_false (by simp [hjudge]) fun hsound => ?_, fun kind fault' => ?_⟩
    · rw [judge_of_isSoundPgp hpgp hsound] at hjudge
      cases hjudge
    · constructor
      · intro h
        rw [hjudge] at h
        cases h
        exact ⟨rfl, hrefuses⟩
      · rintro ⟨rfl, h⟩
        exact judge_of_refusesPgp hpgp h

end Judge

/-! ### What stands around a signature -/

/-- The type of the block of a detached signature. -/
def signatureType : List Char := "PGP SIGNATURE".toList

theorem beginLine_signatureType : Armor.beginLine signatureType = pgpBegin := by decide

theorem pgpBegin_isInfix_of_isBlock {block : List Char} (h : Armor.IsBlock signatureType block)
    (start rest : List Char) : pgpBegin <:+: start ++ block ++ rest := by
  obtain ⟨blanks, body, -, -, -, -, rfl⟩ := h
  rw [beginLine_signatureType]
  exact ⟨start, blanks ++ '\n' :: (body ++ Armor.endLine signatureType) ++ rest,
    by simp only [List.append_assoc]⟩

theorem judge_append_append {block : List Char} (h : Armor.IsBlock signatureType block)
    {start : List Char} (hstart : ¬Armor.beginStart <:+: start) (rest : List Char) :
    judge (start ++ block ++ rest) = judge block := by
  have halone : pgpBegin <:+: block := by
    have hempty := pgpBegin_isInfix_of_isBlock h [] []
    rwa [List.nil_append, List.append_nil] at hempty
  rw [judge_of_pgpBegin (pgpBegin_isInfix_of_isBlock h start rest), judge_of_pgpBegin halone,
    checkPgp, checkPgp, h.decode_append_append hstart rest]

/-- Only the first block of a PGP signature counts: neither what precedes it, as long as no line of
a block opens there, nor what follows it changes what it decodes to, or the verdict. And a text with
the marker of a PGP signature is accepted exactly if its first block is sound, and otherwise refused
by the first check that fails. -/
theorem judge_of_firstBlock :
    (∀ block, Armor.IsBlock signatureType block → ∀ start rest, ¬Armor.beginStart <:+: start →
      judge (start ++ block ++ rest) = judge block ∧
        Armor.decode (start ++ block ++ rest) = Armor.decode block) ∧
      ∀ text, classify text = .gpg →
        (judge text = ⟨.gpg, none⟩ ↔ IsSoundPgp text) ∧
          ∀ kind fault, judge text = ⟨kind, some fault⟩ ↔ kind = .gpg ∧ RefusesPgp text fault := by
  constructor
  · intro block hblock start rest hstart
    exact ⟨judge_append_append hblock hstart rest, hblock.decode_append_append hstart rest⟩
  · intro text htext
    exact judge_iff_of_pgpBegin (classify_eq_gpg_iff.mp htext)

/-- A signature of five bytes. -/
def smallSignature : List Char :=
  "-----BEGIN PGP SIGNATURE-----\r\n\r\nwgMEAAE=\r\n-----END PGP SIGNATURE-----".toList

/-- The last line of a signature without a first one, and half of a first line. -/
def strayMarks : List Char := "-----END PGP SIGNATURE-----\n-----BEGIN".toList

/-- Another block, which is no signature. -/
def smallMessage : List Char :=
  "-----BEGIN PGP MESSAGE-----\n\nwgMEAAE=\n-----END PGP MESSAGE-----\n".toList

theorem isBlock_smallSignature : Armor.IsBlock signatureType smallSignature := by
  refine ⟨['\r'], "\r\nwgMEAAE=\r\n".toList, by decide, by decide, by decide, ?_, by decide⟩
  exact cutAtText_eq_some_iff.mp (by decide +kernel)

theorem judge_of_firstBlock_surrounded :
    judge (strayMarks ++ smallSignature ++ smallMessage) = ⟨.gpg, none⟩ ∧
      IsSoundPgp (strayMarks ++ smallSignature ++ smallMessage) ∧
      RefusesPgp (smallMessage ++ smallSignature) (.wrongBlockType "PGP MESSAGE") := by
  have hstart : ¬Armor.beginStart <:+: strayMarks := by
    rw [← occurs_iff]
    decide +kernel
  have hjudge : judge (strayMarks ++ smallSignature ++ smallMessage) = ⟨.gpg, none⟩ := by
    rw [(judge_of_firstBlock.1 smallSignature isBlock_smallSignature strayMarks smallMessage
      hstart).1]
    decide +kernel
  have hsound := judge_of_firstBlock.2 (strayMarks ++ smallSignature ++ smallMessage)
    (by decide +kernel)
  have hrefuses := judge_of_firstBlock.2 (smallMessage ++ smallSignature) (by decide +kernel)
  have hmessage : judge (smallMessage ++ smallSignature) =
      ⟨.gpg, some (.wrongBlockType "PGP MESSAGE")⟩ := by
    decide +kernel
  exact ⟨hjudge, hsound.1.mp hjudge, ((hrefuses.2 _ _).mp hmessage).2⟩

end CommitLint.Envelope
