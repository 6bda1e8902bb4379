import CommitLint.Text.Utf8
import Mathlib.Tactic.SplitIfs

/-!
# Reading UTF-8

Bytes are a text exactly if they are the UTF-8 of it (`decode?_eq_some_iff`). In between stands the
table of the sequences of bytes that spell a character (`Spells`): these are the sequences that
characters are encoded as (`spells_utf8EncodeChar`, `Spells.utf8EncodeChar_ofNat`), and the reader
takes them, one after the other, and nothing else (`Spells.decodeFrom_append`,
`exists_spells_of_isUtf8`).
-/

namespace CommitLint.Text

/-! ### Sequences of bytes -/

/-- A byte that may follow another one in a character. -/
def IsTail (b : UInt8) : Prop := 0x80 ≤ b.toNat ∧ b.toNat ≤ 0xBF

theorem IsTail.bounds {b : UInt8} (h : IsTail b) :
    (0x80 : UInt8).toNat ≤ b.toNat ∧ b.toNat ≤ (0xBF : UInt8).toNat := h

/-- The bytes that spell the character of a number. The bounds of the second byte keep out numbers
that fewer bytes can spell, the surrogates, and what is too large for a character. -/
inductive Spells : List UInt8 → Nat → Prop
  | one {a : UInt8} {n : Nat} : a.toNat < 0x80 → n = a.toNat → Spells [a] n
  | two {a b : UInt8} {n : Nat} : 0xC2 ≤ a.toNat → a.toNat ≤ 0xDF → IsTail b →
      n = a.toNat % 32 * 64 + b.toNat % 64 → Spells [a, b] n
  | three {a b c : UInt8} {n : Nat} : 0xE0 ≤ a.toNat → a.toNat ≤ 0xEF → IsTail b →
      (a.toNat = 0xE0 → 0xA0 ≤ b.toNat) → (a.toNat = 0xED → b.toNat ≤ 0x9F) → IsTail c →
      n = (a.toNat % 16 * 64 + b.toNat % 64) * 64 + c.toNat % 64 → Spells [a, b, c] n
  | four {a b c d : UInt8} {n : Nat} : 0xF0 ≤ a.toNat → a.toNat ≤ 0xF4 → IsTail b →
      (a.toNat = 0xF0 → 0x90 ≤ b.toNat) → (a.toNat = 0xF4 → b.toNat ≤ 0x8F) → IsTail c →
      IsTail d →
      n = ((a.toNat % 8 * 64 + b.toNat % 64) * 64 + c.toNat % 64) * 64 + d.toNat % 64 →
      Spells [a, b, c, d] n

theorem Spells.isValidChar {bs : List UInt8} {n : Nat} (h : Spells bs n) : n.isValidChar := by
  rw [Nat.isValidChar]
  cases h with
  | one => omega
  | two => omega
  | three _ _ hb hleast hgreatest =>
    obtain ⟨hb, hb'⟩ := hb
    omega
  | four _ _ hb hleast hgreatest =>
    obtain ⟨hb, hb'⟩ := hb
    omega

theorem toNat_ofNat_of_isValidChar {n : Nat} (h : n.isValidChar) : (Char.ofNat n).toNat = n := by
  rw [Char.ofNat, dif_pos h]
  rfl

theorem ofNat_eq_of_toNat_eq {b : UInt8} {n : Nat} (h : b.toNat = n) : UInt8.ofNat n = b := by
  rw [← h, UInt8.ofNat_toNat]

/-- Bytes that spell a character are what it is encoded as. -/
theorem Spells.utf8EncodeChar_ofNat {bs : List UInt8} {n : Nat} (h : Spells bs n) :
    String.utf8EncodeChar (Char.ofNat n) = bs := by
  rw [String.utf8EncodeChar, Char.toNat_val, toNat_ofNat_of_isValidChar h.isValidChar]
  cases h with
  | one ha hn => rw [if_pos (by omega), ofNat_eq_of_toNat_eq hn.symm]
  | @two a b _ ha ha' hb hn =>
    obtain ⟨hb, hb'⟩ := hb
    rw [if_neg (by omega), if_pos (by omega), ofNat_eq_of_toNat_eq (b := a) (by omega),
      ofNat_eq_of_toNat_eq (b := b) (by omega)]
  | @three a b c _ ha ha' hb hleast hgreatest hc hn =>
    obtain ⟨hb, hb'⟩ := hb
    obtain ⟨hc, hc'⟩ := hc
    rw [if_neg (by omega), if_neg (by omega), if_pos (by omega),
      ofNat_eq_of_toNat_eq (b := a) (by omega), ofNat_eq_of_toNat_eq (b := b) (by omega),
      ofNat_eq_of_toNat_eq (b := c) (by omega)]
  | @four a b c d _ ha ha' hb hleast hgreatest hc hd hn =>
    obtain ⟨hb, hb'⟩ := hb
    obtain ⟨hc, hc'⟩ := hc
    obtain ⟨hd, hd'⟩ := hd
    rw [if_neg (by omega), if_neg (by omega), if_neg (by omega),
      ofNat_eq_of_toNat_eq (b := a) (by omega), ofNat_eq_of_toNat_eq (b := b) (by omega),
      ofNat_eq_of_toNat_eq (b := c) (by omega), ofNat_eq_of_toNat_eq (b := d) (by omega)]

/-- A character is encoded as bytes that spell it. -/
theorem spells_utf8EncodeChar (c : Char) : Spells (String.utf8EncodeChar c) c.toNat := by
  have hvalid : c.toNat < 0xD800 ∨ 0xDFFF < c.toNat ∧ c.toNat < 0x110000 := c.valid
  rw [String.utf8EncodeChar, Char.toNat_val]
  generalize c.toNat = n at hvalid ⊢
  have hbyte : ∀ m, m < 256 → (UInt8.ofNat m).toNat = m := fun m hm => Nat.mod_eq_of_lt hm
  split_ifs with h₁ h₂ h₃
  · have ha := hbyte n (by omega)
    generalize UInt8.ofNat n = a at ha ⊢
    exact .one (by omega) ha.symm
  · have ha := hbyte (n / 64 % 32 + 192) (by omega)
    have hb := hbyte (n % 64 + 128) (by omega)
    generalize UInt8.ofNat (n / 64 % 32 + 192) = a at ha ⊢
    generalize UInt8.ofNat (n % 64 + 128) = b at hb ⊢
    exact .two (by omega) (by omega) ⟨by omega, by omega⟩ (by omega)
  · have ha := hbyte (n / 4096 % 16 + 224) (by omega)
    have hb := hbyte (n / 64 % 64 + 128) (by omega)
    have hc := hbyte (n % 64 + 128) (by omega)
    generalize UInt8.ofNat (n / 4096 % 16 + 224) = a at ha ⊢
    generalize UInt8.ofNat (n / 64 % 64 + 128) = b at hb ⊢
    generalize UInt8.ofNat (n % 64 + 128) = c at hc ⊢
    exact .three (by omega) (by omega) ⟨by omega, by omega⟩ (by omega) (by omega)
      ⟨by omega, by omega⟩ (by omega)
  · have ha := hbyte (n / 262144 % 8 + 240) (by omega)
    have hb := hbyte (n / 4096 % 64 + 128) (by omega)
    have hc := hbyte (n / 64 % 64 + 128) (by omega)
    have hd := hbyte (n % 64 + 128) (by omega)
    generalize UInt8.ofNat (n / 262144 % 8 + 240) = a at ha ⊢
    generalize UInt8.ofNat (n / 4096 % 64 + 128) = b at hb ⊢
    generalize UInt8.ofNat (n / 64 % 64 + 128) = c at hc ⊢
    generalize UInt8.ofNat (n % 64 + 128) = d at hd ⊢
    exact .four (by omega) (by omega) ⟨by omega, by omega⟩ (by omega) (by omega)
      ⟨by omega, by omega⟩ ⟨by omega, by omega⟩ (by omega)

/-! ### The reader -/

theorem leading?_two {a : UInt8} (hleast : 0xC2 ≤ a.toNat) (hgreatest : a.toNat ≤ 0xDF) :
    leading? a = some (1, 0x80, 0xBF) := by
  simp [leading?, UInt8.le_iff_toNat_le, hleast, hgreatest]

theorem leading?_three {a : UInt8} (hleast : 0xE0 ≤ a.toNat) (hgreatest : a.toNat ≤ 0xEF) :
    leading? a =
      some (2, if a.toNat = 0xE0 then 0xA0 else 0x80, if a.toNat = 0xED then 0x9F else 0xBF) := by
  simp only [leading?, UInt8.le_iff_toNat_le, beq_iff_eq, ← UInt8.toNat_inj, Bool.and_eq_true,
    decide_eq_true_eq, UInt8.reduceToNat]
  split_ifs <;> first | rfl | omega

theorem leading?_four {a : UInt8} (hleast : 0xF0 ≤ a.toNat) (hgreatest : a.toNat ≤ 0xF4) :
    leading? a =
      some (3, if a.toNat = 0xF0 then 0x90 else 0x80, if a.toNat = 0xF4 then 0x8F else 0xBF) := by
  simp only [leading?, UInt8.le_iff_toNat_le, beq_iff_eq, ← UInt8.toNat_inj, Bool.and_eq_true,
    decide_eq_true_eq, UInt8.reduceToNat]
  split_ifs <;> first | rfl | omega

/-- A byte that leads characters of several bytes is of one of three kinds. -/
theorem range_of_leading? {a : UInt8} (h : (leading? a).isSome) :
    (0xC2 ≤ a.toNat ∧ a.toNat ≤ 0xDF) ∨ (0xE0 ≤ a.toNat ∧ a.toNat ≤ 0xEF) ∨
      (0xF0 ≤ a.toNat ∧ a.toNat ≤ 0xF4) := by
  simp only [leading?, UInt8.le_iff_toNat_le, beq_iff_eq, ← UInt8.toNat_inj, Bool.and_eq_true,
    decide_eq_true_eq, UInt8.reduceToNat] at h
  split_ifs at h <;> first | omega | simp at h

/-- Bounds that are closer for some leading bytes. -/
theorem bounds_ite_iff {p q : Prop} [Decidable p] [Decidable q]
    {least least' greatest greatest' b : UInt8} (hleast : least.toNat ≤ least'.toNat)
    (hgreatest : greatest'.toNat ≤ greatest.toNat) :
    ((if p then least' else least).toNat ≤ b.toNat ∧
        b.toNat ≤ (if q then greatest' else greatest).toNat) ↔
      (least.toNat ≤ b.toNat ∧ b.toNat ≤ greatest.toNat) ∧ (p → least'.toNat ≤ b.toNat) ∧
        (q → b.toNat ≤ greatest'.toNat) := by
  by_cases hp : p <;> by_cases hq : q <;> simp only [hp, hq] <;> grind

theorem bounds_three {a b : UInt8} (hb : IsTail b) (hleast : a.toNat = 0xE0 → 0xA0 ≤ b.toNat)
    (hgreatest : a.toNat = 0xED → b.toNat ≤ 0x9F) :
    (if a.toNat = 0xE0 then 0xA0 else 0x80 : UInt8).toNat ≤ b.toNat ∧
      b.toNat ≤ (if a.toNat = 0xED then 0x9F else 0xBF : UInt8).toNat :=
  (bounds_ite_iff (by decide) (by decide)).mpr ⟨hb, hleast, hgreatest⟩

theorem bounds_four {a b : UInt8} (hb : IsTail b) (hleast : a.toNat = 0xF0 → 0x90 ≤ b.toNat)
    (hgreatest : a.toNat = 0xF4 → b.toNat ≤ 0x8F) :
    (if a.toNat = 0xF0 then 0x90 else 0x80 : UInt8).toNat ≤ b.toNat ∧
      b.toNat ≤ (if a.toNat = 0xF4 then 0x8F else 0xBF : UInt8).toNat :=
  (bounds_ite_iff (by decide) (by decide)).mpr ⟨hb, hleast, hgreatest⟩

/-- What the reader knows after a byte that leads a character of several bytes. -/
theorem beginChar_of_leading? {a least greatest : UInt8} {missing : Nat}
    (h : leading? a = some (missing, least, greatest)) (ha : 0x80 ≤ a.toNat) :
    beginChar a = ([], some ⟨a.toNat % (1 <<< (6 - missing)), missing, least, greatest⟩) := by
  have hlt : ¬a < 0x80 := by
    rw [UInt8.lt_iff_toNat_lt]
    exact Nat.not_lt.mpr ha
  rw [beginChar, if_neg hlt, h]

theorem bounds_iff {least greatest b : UInt8} :
    (least ≤ b && b ≤ greatest) = true ↔
      least.toNat ≤ b.toNat ∧ b.toNat ≤ greatest.toNat := by
  rw [Bool.and_eq_true, decide_eq_true_eq, decide_eq_true_eq, UInt8.le_iff_toNat_le,
    UInt8.le_iff_toNat_le]

section Pending

variable {bits : Nat} {least greatest b : UInt8}
  (hb : least.toNat ≤ b.toNat ∧ b.toNat ≤ greatest.toNat)
include hb

/-- The last byte of a character ends it. -/
theorem decodeFrom_last (bs : List UInt8) :
    decodeFrom (some ⟨bits, 1, least, greatest⟩) (b :: bs) =
      Char.ofNat (bits * 64 + b.toNat % 64) :: decodeFrom none bs := by
  rw [decodeFrom, if_pos (bounds_iff.mpr hb)]
  rfl

/-- A byte before the last one adds its bits. -/
theorem decodeFrom_more (missing : Nat) (bs : List UInt8) :
    decodeFrom (some ⟨bits, missing + 2, least, greatest⟩) (b :: bs) =
      decodeFrom (some ⟨bits * 64 + b.toNat % 64, missing + 1, 0x80, 0xBF⟩) bs := by
  rw [decodeFrom, if_pos (bounds_iff.mpr hb)]
  rfl

theorem isUtf8_last (bs : List UInt8) :
    isUtf8 (some ⟨bits, 1, least, greatest⟩) (b :: bs) = isUtf8 none bs := by
  rw [isUtf8, bounds_iff.mpr hb]
  rfl

theorem isUtf8_more (missing : Nat) (bs : List UInt8) :
    isUtf8 (some ⟨bits, missing + 2, least, greatest⟩) (b :: bs) =
      isUtf8 (some ⟨0, missing + 1, 0x80, 0xBF⟩) bs := by
  rw [isUtf8, bounds_iff.mpr hb]
  rfl

end Pending

theorem isUtf8_first_of_leading? {a least greatest : UInt8} {missing : Nat}
    (h : leading? a = some (missing, least, greatest)) (ha : 0x80 ≤ a.toNat) (bs : List UInt8) :
    isUtf8 none (a :: bs) =
      isUtf8 (some ⟨a.toNat % (1 <<< (6 - missing)), missing, least, greatest⟩) bs := by
  rw [isUtf8, beginChar_of_leading? h ha, h, Option.isSome_some, Bool.or_true, Bool.true_and]

theorem decodeFrom_first_of_leading? {a least greatest : UInt8} {missing : Nat}
    (h : leading? a = some (missing, least, greatest)) (ha : 0x80 ≤ a.toNat) (bs : List UInt8) :
    decodeFrom none (a :: bs) =
      decodeFrom (some ⟨a.toNat % (1 <<< (6 - missing)), missing, least, greatest⟩) bs := by
  rw [decodeFrom, beginChar_of_leading? h ha, List.nil_append]

/-- The reader takes the bytes of a character as a whole, whatever follows them. -/
theorem Spells.decodeFrom_append {bs : List UInt8} {n : Nat} (h : Spells bs n)
    (rest : List UInt8) :
    decodeFrom none (bs ++ rest) = Char.ofNat n :: decodeFrom none rest := by
  cases h with
  | @one a _ ha hn =>
    have hbegin : beginChar a = ([Char.ofNat a.toNat], none) := by
      rw [beginChar, if_pos (UInt8.lt_iff_toNat_lt.mpr ha)]
    rw [List.singleton_append, decodeFrom, hbegin, hn, List.singleton_append]
  | @two a b _ ha ha' hb hn =>
    calc decodeFrom none (a :: b :: rest)
        = decodeFrom (some ⟨a.toNat % 32, 1, 0x80, 0xBF⟩) (b :: rest) :=
          decodeFrom_first_of_leading? (leading?_two ha ha') (by omega) _
      _ = Char.ofNat (a.toNat % 32 * 64 + b.toNat % 64) :: decodeFrom none rest :=
          decodeFrom_last hb.bounds rest
      _ = Char.ofNat _ :: decodeFrom none rest := by rw [← hn]
  | @three a b c _ ha ha' hb hleast hgreatest hc hn =>
    have hbounds := bounds_three hb hleast hgreatest
    calc decodeFrom none (a :: b :: c :: rest)
        = decodeFrom (some ⟨a.toNat % 16, 2, _, _⟩) (b :: c :: rest) :=
          decodeFrom_first_of_leading? (leading?_three ha ha') (by omega) _
      _ = decodeFrom (some ⟨_, 1, 0x80, 0xBF⟩) (c :: rest) := decodeFrom_more hbounds 0 _
      _ = Char.ofNat _ :: decodeFrom none rest := decodeFrom_last hc.bounds rest
      _ = Char.ofNat _ :: decodeFrom none rest := by rw [← hn]
  | @four a b c d _ ha ha' hb hleast hgreatest hc hd hn =>
    have hbounds := bounds_four hb hleast hgreatest
    calc decodeFrom none (a :: b :: c :: d :: rest)
        = decodeFrom (some ⟨a.toNat % 8, 3, _, _⟩) (b :: c :: d :: rest) :=
          decodeFrom_first_of_leading? (leading?_four ha ha') (by omega) _
      _ = decodeFrom (some ⟨_, 2, 0x80, 0xBF⟩) (c :: d :: rest) := decodeFrom_more hbounds 1 _
      _ = decodeFrom (some ⟨_, 1, 0x80, 0xBF⟩) (d :: rest) := decodeFrom_more hc.bounds 0 _
      _ = Char.ofNat _ :: decodeFrom none rest := decodeFrom_last hd.bounds rest
      _ = Char.ofNat _ :: decodeFrom none rest := by rw [← hn]

theorem Spells.isUtf8_append {bs : List UInt8} {n : Nat} (h : Spells bs n) (rest : List UInt8) :
    isUtf8 none (bs ++ rest) = isUtf8 none rest := by
  cases h with
  | @one a _ ha hn =>
    have hlt : a < 0x80 := UInt8.lt_iff_toNat_lt.mpr ha
    rw [List.singleton_append, isUtf8, beginChar, if_pos hlt, decide_eq_true hlt, Bool.true_or,
      Bool.true_and]
  | @two a b _ ha ha' hb hn =>
    calc isUtf8 none (a :: b :: rest)
        = isUtf8 (some ⟨_, 1, 0x80, 0xBF⟩) (b :: rest) :=
          isUtf8_first_of_leading? (leading?_two ha ha') (by omega) _
      _ = isUtf8 none rest := isUtf8_last hb.bounds rest
  | @three a b c _ ha ha' hb hleast hgreatest hc hn =>
    have hbounds := bounds_three hb hleast hgreatest
    calc isUtf8 none (a :: b :: c :: rest)
        = isUtf8 (some ⟨_, 2, _, _⟩) (b :: c :: rest) :=
          isUtf8_first_of_leading? (leading?_three ha ha') (by omega) _
      _ = isUtf8 (some ⟨0, 1, 0x80, 0xBF⟩) (c :: rest) := isUtf8_more hbounds 0 _
      _ = isUtf8 none rest := isUtf8_last hc.bounds rest
  | @four a b c d _ ha ha' hb hleast hgreatest hc hd hn =>
    have hbounds := bounds_four hb hleast hgreatest
    calc isUtf8 none (a :: b :: c :: d :: rest)
        = isUtf8 (some ⟨_, 3, _, _⟩) (b :: c :: d :: rest) :=
          isUtf8_first_of_leading? (leading?_four ha ha') (by omega) _
      _ = isUtf8 (some ⟨0, 2, 0x80, 0xBF⟩) (c :: d :: rest) := isUtf8_more hbounds 1 _
      _ = isUtf8 (some ⟨0, 1, 0x80, 0xBF⟩) (d :: rest) := isUtf8_more hc.bounds 0 _
      _ = isUtf8 none rest := isUtf8_last hd.bounds rest

/-- Where a character has begun, a byte within the bounds has to come. -/
theorem exists_cons_of_isUtf8 {bits missing : Nat} {least greatest : UInt8} {bs : List UInt8}
    (h : isUtf8 (some ⟨bits, missing, least, greatest⟩) bs) :
    ∃ b rest, bs = b :: rest ∧ least.toNat ≤ b.toNat ∧ b.toNat ≤ greatest.toNat := by
  cases bs with
  | nil => simp [isUtf8] at h
  | cons b rest =>
    rw [isUtf8, Bool.and_eq_true, bounds_iff] at h
    exact ⟨b, rest, rfl, h.1⟩

/-- Bytes that the reader accepts begin with some that spell a character. -/
theorem exists_spells_of_isUtf8 {a : UInt8} {bs : List UInt8} (h : isUtf8 none (a :: bs)) :
    ∃ s n rest, Spells s n ∧ a :: bs = s ++ rest ∧ rest.length ≤ bs.length := by
  by_cases hascii : a.toNat < 0x80
  · exact ⟨[a], a.toNat, bs, .one hascii rfl, rfl, Nat.le_refl _⟩
  have hsome : (leading? a).isSome := by
    rw [isUtf8, Bool.and_eq_true, Bool.or_eq_true, decide_eq_true_eq, UInt8.lt_iff_toNat_lt] at h
    exact h.1.resolve_left hascii
  have ha : 0x80 ≤ a.toNat := Nat.not_lt.mp hascii
  rcases range_of_leading? hsome with hrange | hrange | hrange
  · rw [isUtf8_first_of_leading? (leading?_two hrange.1 hrange.2) ha] at h
    obtain ⟨b, rest, rfl, hb⟩ := exists_cons_of_isUtf8 h
    exact ⟨[a, b], _, rest, .two hrange.1 hrange.2 hb rfl, rfl, by simp⟩
  · rw [isUtf8_first_of_leading? (leading?_three hrange.1 hrange.2) ha] at h
    obtain ⟨b, bs, rfl, hb⟩ := exists_cons_of_isUtf8 h
    rw [isUtf8_more hb] at h
    obtain ⟨c, rest, rfl, hc⟩ := exists_cons_of_isUtf8 h
    obtain ⟨htail, hleast, hgreatest⟩ := (bounds_ite_iff (by decide) (by decide)).mp hb
    exact ⟨[a, b, c], _, rest, .three hrange.1 hrange.2 htail hleast hgreatest hc rfl, rfl,
      by simp; omega⟩
  · rw [isUtf8_first_of_leading? (leading?_four hrange.1 hrange.2) ha] at h
    obtain ⟨b, bs, rfl, hb⟩ := exists_cons_of_isUtf8 h
    rw [isUtf8_more hb] at h
    obtain ⟨c, bs, rfl, hc⟩ := exists_cons_of_isUtf8 h
    rw [isUtf8_more hc] at h
    obtain ⟨d, rest, rfl, hd⟩ := exists_cons_of_isUtf8 h
    obtain ⟨htail, hleast, hgreatest⟩ := (bounds_ite_iff (by decide) (by decide)).mp hb
    exact ⟨[a, b, c, d], _, rest, .four hrange.1 hrange.2 htail hleast hgreatest hc hd rfl, rfl,
      by simp; omega⟩

/-! ### Texts -/

theorem encode_cons (c : Char) (s : List Char) :
    encode (c :: s) = String.utf8EncodeChar c ++ encode s := rfl

theorem length_encode (s : List Char) : (encode s).length = byteLength s := by
  induction s with
  | nil => rfl
  | cons c s ih =>
    rw [encode_cons, List.length_append, String.length_utf8EncodeChar, ih, byteLength]

theorem encode_eq_nil_iff {s : List Char} : encode s = [] ↔ s = [] := by
  cases s with
  | nil => simp [encode]
  | cons c s =>
    have hpos : 0 < (encode (c :: s)).length := by
      have := Char.utf8Size_pos c
      rw [length_encode, byteLength]
      omega
    exact iff_of_false (List.ne_nil_of_length_pos hpos) (List.cons_ne_nil c s)

theorem isUtf8_encode (s : List Char) : isUtf8 none (encode s) := by
  induction s with
  | nil => rfl
  | cons c s ih => rwa [encode_cons, (spells_utf8EncodeChar c).isUtf8_append]

theorem decodeLossy_encode (s : List Char) : decodeLossy (encode s) = s := by
  induction s with
  | nil => rfl
  | cons c s ih =>
    rw [decodeLossy, encode_cons, (spells_utf8EncodeChar c).decodeFrom_append, Char.ofNat_toNat]
    exact congrArg (c :: ·) ih

/-- Reading undoes encoding. -/
theorem decode?_encode (s : List Char) : decode? (encode s) = some s := by
  rw [decode?, if_pos (isUtf8_encode s), decodeLossy_encode]

theorem exists_eq_encode_of_isUtf8 {bs : List UInt8} (h : isUtf8 none bs) :
    ∃ s, bs = encode s := by
  -- A character may take several bytes, so the induction is on the number of bytes.
  induction hlength : bs.length using Nat.strongRecOn generalizing bs with
  | ind length ih =>
    cases bs with
    | nil => exact ⟨[], rfl⟩
    | cons a bs =>
      obtain ⟨bytes, n, rest, hspells, heq, hshort⟩ := exists_spells_of_isUtf8 h
      rw [heq, hspells.isUtf8_append] at h
      obtain ⟨s, rfl⟩ := ih rest.length (by rw [← hlength, List.length_cons]; omega) h rfl
      exact ⟨Char.ofNat n :: s, by rw [heq, encode_cons, hspells.utf8EncodeChar_ofNat]⟩

/-- Bytes are a text exactly if they are the UTF-8 of it. -/
theorem decode?_eq_some_iff {bs : List UInt8} {s : List Char} :
    decode? bs = some s ↔ bs = encode s := by
  constructor
  · intro h
    rw [decode?] at h
    split at h
    · rename_i hutf8
      obtain ⟨t, rfl⟩ := exists_eq_encode_of_isUtf8 hutf8
      rw [decodeLossy_encode, Option.some.injEq] at h
      rw [h]
    · cases h
  · rintro rfl
    exact decode?_encode s

theorem decode?_eq_none_iff {bs : List UInt8} : decode? bs = none ↔ ∀ s, bs ≠ encode s := by
  rw [Option.eq_none_iff_forall_ne_some]
  exact forall_congr' fun s => not_congr decode?_eq_some_iff

end CommitLint.Text
