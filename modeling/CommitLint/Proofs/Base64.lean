import CommitLint.Base64
import Mathlib.Tactic.SplitIfs

/-!
# Base64 is canonical

Decoding accepts exactly what encoding produces (`decode_eq_ok_iff`). Between the two stands the
shape of an encoded text: symbols of whole groups, then a last group of two to four symbols that is
filled up with padding, and whose unused bits are zero (`Grouping`). The decoder accepts the texts
of this shape and no others (`Grouping.decode_text`, `exists_grouping_of_decode`); all bytes fall
into such groups (`exists_grouping_bytes`), and encoding writes their text
(`Grouping.encode_bytes`).
-/

namespace CommitLint.Base64

/-! ### Symbols -/

theorem value?_symbol : ∀ {v : Nat}, v < 64 → value? (symbol v) = some v := by decide

theorem symbol_ne_pad : ∀ {v : Nat}, v < 64 → symbol v ≠ pad := by decide

/-- A byte has a value only if it is the symbol of that value. -/
theorem symbol_of_value? {b : UInt8} {v : Nat} (h : value? b = some v) : v < 64 ∧ b = symbol v := by
  have table : ∀ n < 256, ∀ v ∈ value? (UInt8.ofNat n), v < 64 ∧ UInt8.ofNat n = symbol v := by
    decide +kernel
  have hb := table b.toNat b.toNat_lt v
  rw [UInt8.ofNat_toNat] at hb
  exact hb h

/-! ### Runs of symbols -/

/-- Values that symbols stand for. -/
def AreValues (vs : List Nat) : Prop := ∀ v ∈ vs, v < 64

theorem areValues_cons {v : Nat} {vs : List Nat} :
    AreValues (v :: vs) ↔ v < 64 ∧ AreValues vs := List.forall_mem_cons

theorem areValues_append {vs ws : List Nat} :
    AreValues (vs ++ ws) ↔ AreValues vs ∧ AreValues ws := List.forall_mem_append

theorem readSymbols_map {vs : List Nat} (h : AreValues vs) (offset : Nat) :
    readSymbols offset (vs.map symbol) = .ok vs := by
  induction vs generalizing offset with
  | nil => rfl
  | cons v vs ih =>
    obtain ⟨hv, hvs⟩ := areValues_cons.mp h
    rw [List.map_cons, readSymbols, value?_symbol hv]
    dsimp only
    rw [ih hvs]
    rfl

/-- A run of symbols is read as the values that it spells. -/
theorem eq_map_of_readSymbols {offset : Nat} {bs : List UInt8} {vs : List Nat}
    (h : readSymbols offset bs = .ok vs) : AreValues vs ∧ bs = vs.map symbol := by
  induction bs generalizing offset vs with
  | nil =>
    cases h
    exact ⟨by simp [AreValues], rfl⟩
  | cons b bs ih =>
    rw [readSymbols] at h
    cases hb : value? b with
    | none => simp [hb] at h
    | some v =>
      obtain ⟨hv, rfl⟩ := symbol_of_value? hb
      cases hrest : readSymbols (offset + 1) bs with
      | error fault => simp [hb, hrest, Except.map] at h
      | ok ws =>
        obtain ⟨hws, rfl⟩ := ih hrest
        rw [hb] at h
        dsimp only at h
        rw [hrest] at h
        cases h
        exact ⟨areValues_cons.mpr ⟨hv, hws⟩, rfl⟩

/-- The last group is read as its values and the length of its padding, which begins at the third
position or later. -/
theorem readLast_append {vs : List Nat} (h : AreValues vs) (start i pads : Nat)
    (hpads : 0 < pads → 2 ≤ i + vs.length) :
    readLast start i (vs.map symbol ++ List.replicate pads pad) = .ok (vs, pads) := by
  induction vs generalizing i with
  | nil =>
    cases pads with
    | zero => rfl
    | succ pads =>
      have hi : 2 ≤ i := by simpa using hpads
      rw [List.map_nil, List.nil_append, List.replicate_succ, readLast, if_pos rfl,
        if_pos ⟨hi, by simp⟩, List.length_replicate]
  | cons v vs ih =>
    obtain ⟨hv, hvs⟩ := areValues_cons.mp h
    have hrest := ih hvs (i + 1) fun h => by
      have := hpads h
      rw [List.length_cons] at this
      omega
    rw [List.map_cons, List.cons_append, readLast, if_neg (symbol_ne_pad hv), value?_symbol hv]
    dsimp only
    rw [hrest]
    rfl

theorem eq_append_of_readLast {start i pads : Nat} {bs : List UInt8} {vs : List Nat}
    (h : readLast start i bs = .ok (vs, pads)) :
    AreValues vs ∧ bs = vs.map symbol ++ List.replicate pads pad := by
  induction bs generalizing i vs with
  | nil =>
    cases h
    exact ⟨by simp [AreValues], rfl⟩
  | cons b bs ih =>
    rw [readLast] at h
    split at h
    · rename_i hpad
      split at h
      · rename_i hrest
        cases h
        have heq : bs = List.replicate bs.length pad :=
          List.eq_replicate_iff.mpr ⟨rfl, by simpa using hrest.2⟩
        refine ⟨by simp [AreValues], ?_⟩
        rw [List.map_nil, List.nil_append, List.replicate_succ, hpad, ← heq]
      · cases h
    · cases hb : value? b with
      | none => simp [hb] at h
      | some v =>
        obtain ⟨hv, rfl⟩ := symbol_of_value? hb
        cases hrest : readLast start (i + 1) bs with
        | error fault => simp [hb, hrest, Except.map] at h
        | ok found =>
          obtain ⟨ws, n⟩ := found
          rw [hb] at h
          dsimp only at h
          rw [hrest] at h
          cases h
          obtain ⟨hws, rfl⟩ := ih hrest
          exact ⟨areValues_cons.mpr ⟨hv, hws⟩, rfl⟩

/-! ### Groups -/

/-- The values of an encoded text: those of whole groups of four, and two to four in the last
group, of which the bits that fill no byte are zero. -/
structure Grouping where
  whole : List Nat
  last : List Nat
  areValues_whole : AreValues whole
  areValues_last : AreValues last
  length_whole : whole.length % 4 = 0
  two_le_length_last : 2 ≤ last.length
  length_last_le : last.length ≤ 4
  hasStrayBits_last : hasStrayBits last = false

namespace Grouping

/-- The text of a grouping. -/
def text (g : Grouping) : List UInt8 :=
  g.whole.map symbol ++ (g.last.map symbol ++ List.replicate (4 - g.last.length) pad)

/-- The bytes of a grouping. -/
def bytes (g : Grouping) : List UInt8 := Base64.bytes (g.whole ++ g.last)

theorem length_text (g : Grouping) : g.text.length = g.whole.length + 4 := by
  have h := g.length_last_le
  simp only [text, List.length_append, List.length_map, List.length_replicate]
  omega

theorem decode_text (g : Grouping) : decode g.text = .ok g.bytes := by
  have hlength := g.length_text
  have hwhole := g.length_whole
  have hlast := g.two_le_length_last
  have hle := g.length_last_le
  have hstart : g.text.length - lastGroup g.text.length = (g.whole.map symbol).length := by
    rw [hlength, lastGroup, if_neg (by omega), List.length_map]
    omega
  have hstray : strayByte? g.text = none := by
    rw [strayByte?]
    split
    · rfl
    · exact if_neg fun h => by omega
  have hne : g.text.isEmpty = false := by
    rw [List.isEmpty_eq_false_iff, ← List.length_pos_iff]
    omega
  rw [decode, if_neg (by simp [hne]), hstray]
  dsimp only
  rw [hstart, text, List.take_left, List.drop_left, readSymbols_map g.areValues_whole,
    List.length_map]
  simp only [bind, Except.bind]
  rw [readLast_append g.areValues_last _ _ _ fun _ => by omega]
  dsimp only
  rw [if_neg (by omega), if_neg (by omega), if_neg (by simp [g.hasStrayBits_last])]
  rfl

end Grouping

theorem lastGroup_pos {n : Nat} (h : n ≠ 0) :
    0 < lastGroup n ∧ lastGroup n ≤ 4 ∧ lastGroup n ≤ n ∧ (n - lastGroup n) % 4 = 0 := by
  rw [lastGroup, if_neg h]
  omega

/-- What is decoded has the shape of an encoded text. -/
theorem exists_grouping_of_decode {bs blob : List UInt8} (hne : bs ≠ [])
    (h : decode bs = .ok blob) : ∃ g : Grouping, bs = g.text ∧ blob = g.bytes := by
  have hlength : bs.length ≠ 0 := by simpa using hne
  obtain ⟨hpos, hle, hn, hmod⟩ := lastGroup_pos hlength
  rw [decode, if_neg (by simpa using hne)] at h
  split at h
  · cases h
  generalize hstart : bs.length - lastGroup bs.length = start at h hmod
  cases hwhole : readSymbols 0 (bs.take start) with
  | error fault => simp [hwhole, bind, Except.bind] at h
  | ok whole =>
    cases hlast : readLast start 0 (bs.drop start) with
    | error fault => simp [hwhole, hlast, bind, Except.bind] at h
    | ok found =>
      obtain ⟨last, pads⟩ := found
      simp only [hwhole, hlast, bind, Except.bind] at h
      split_ifs at h with htwo hpadding hstray
      obtain ⟨hvalues, htake⟩ := eq_map_of_readSymbols hwhole
      obtain ⟨hvalues', hdrop⟩ := eq_append_of_readLast hlast
      have htakeLength : whole.length = start := by
        rw [← List.length_map symbol, ← htake, List.length_take]
        omega
      have hdropLength : last.length + pads = lastGroup bs.length := by
        have := congrArg List.length hdrop
        rw [List.length_drop, List.length_append, List.length_map, List.length_replicate] at this
        omega
      have hpads : pads = 4 - last.length := by omega
      refine ⟨⟨whole, last, hvalues, hvalues', by omega, by omega, by omega, by simpa using hstray⟩,
        ?_, by cases h; rfl⟩
      rw [Grouping.text, ← hpads, ← htake, ← hdrop, List.take_append_drop]

/-! ### Bytes and values -/

theorem toNat_ofNat {n : Nat} (h : n < 256) : (UInt8.ofNat n).toNat = n := Nat.mod_eq_of_lt h

/-- Whole groups are encoded by themselves. -/
theorem encode_bytes_append (last : List Nat) : ∀ {whole : List Nat}, AreValues whole →
    whole.length % 4 = 0 →
    encode (bytes (whole ++ last)) = whole.map symbol ++ encode (bytes last)
  | [], _, _ => rfl
  | a :: b :: c :: d :: whole, hvalues, hlength => by
    simp only [areValues_cons] at hvalues
    obtain ⟨ha, hb, hc, hd, hvalues⟩ := hvalues
    have hrest : whole.length % 4 = 0 := by
      simp only [List.length_cons] at hlength
      omega
    have ih := encode_bytes_append last hvalues hrest
    have hx := toNat_ofNat (n := a * 4 + b / 16) (by omega)
    have hy := toNat_ofNat (n := b % 16 * 16 + c / 4) (by omega)
    have hz := toNat_ofNat (n := c % 4 * 64 + d) (by omega)
    have ha' : (a * 4 + b / 16) / 4 = a := by omega
    have hb' : (a * 4 + b / 16) % 4 * 16 + (b % 16 * 16 + c / 4) / 16 = b := by omega
    have hc' : (b % 16 * 16 + c / 4) % 16 * 4 + (c % 4 * 64 + d) / 64 = c := by omega
    have hd' : (c % 4 * 64 + d) % 64 = d := by omega
    simp only [List.cons_append, bytes, encode, List.map_cons, hx, hy, hz, ha', hb', hc', hd', ih]

/-- A last group is filled up with padding. -/
theorem encode_bytes_last {last : List Nat} (hvalues : AreValues last) (htwo : 2 ≤ last.length)
    (hle : last.length ≤ 4) (hstray : hasStrayBits last = false) :
    encode (bytes last) = last.map symbol ++ List.replicate (4 - last.length) pad := by
  match last with
  | [a, b] =>
    simp only [areValues_cons, hasStrayBits, bne_eq_false_iff_eq] at hvalues hstray
    have hx := toNat_ofNat (n := a * 4 + b / 16) (by omega)
    have ha' : (a * 4 + b / 16) / 4 = a := by omega
    have hb' : (a * 4 + b / 16) % 4 * 16 = b := by omega
    simp only [bytes, encode, hx, ha', hb']
    rfl
  | [a, b, c] =>
    simp only [areValues_cons, hasStrayBits, bne_eq_false_iff_eq] at hvalues hstray
    have hx := toNat_ofNat (n := a * 4 + b / 16) (by omega)
    have hy := toNat_ofNat (n := b % 16 * 16 + c / 4) (by omega)
    have ha' : (a * 4 + b / 16) / 4 = a := by omega
    have hb' : (a * 4 + b / 16) % 4 * 16 + (b % 16 * 16 + c / 4) / 16 = b := by omega
    have hc' : (b % 16 * 16 + c / 4) % 16 * 4 = c := by omega
    simp only [bytes, encode, hx, hy, ha', hb', hc']
    rfl
  | [a, b, c, d] =>
    have h := encode_bytes_append [] hvalues (by simp)
    rwa [List.append_nil] at h
  | _ :: _ :: _ :: _ :: _ :: _ =>
    simp only [List.length_cons] at hle
    omega

/-- Encoding gives back the text of a grouping from its bytes. -/
theorem Grouping.encode_bytes (g : Grouping) : encode g.bytes = g.text := by
  rw [bytes, encode_bytes_append _ g.areValues_whole g.length_whole,
    encode_bytes_last g.areValues_last g.two_le_length_last g.length_last_le g.hasStrayBits_last,
    text]

/-- The values of three bytes. -/
def valuesOf (a b c : UInt8) : List Nat :=
  [a.toNat / 4, a.toNat % 4 * 16 + b.toNat / 16, b.toNat % 16 * 4 + c.toNat / 64, c.toNat % 64]

theorem areValues_valuesOf (a b c : UInt8) : AreValues (valuesOf a b c) := by
  have ha := a.toNat_lt
  have hb := b.toNat_lt
  have hc := c.toNat_lt
  simp only [valuesOf, areValues_cons]
  exact ⟨by omega, by omega, by omega, by omega, by simp [AreValues]⟩

theorem bytes_valuesOf_append (a b c : UInt8) (vs : List Nat) :
    bytes (valuesOf a b c ++ vs) = a :: b :: c :: bytes vs := by
  have ha := a.toNat_lt
  have hb := b.toNat_lt
  have hc := c.toNat_lt
  have ha' : a.toNat / 4 * 4 + (a.toNat % 4 * 16 + b.toNat / 16) / 16 = a.toNat := by omega
  have hb' : (a.toNat % 4 * 16 + b.toNat / 16) % 16 * 16 + (b.toNat % 16 * 4 + c.toNat / 64) / 4 =
      b.toNat := by omega
  have hc' : (b.toNat % 16 * 4 + c.toNat / 64) % 4 * 64 + c.toNat % 64 = c.toNat := by omega
  simp only [valuesOf, List.cons_append, List.nil_append, bytes, ha', hb', hc', UInt8.ofNat_toNat]

/-- All bytes fall into groups: three by three, and one to three at the end. -/
theorem exists_grouping_bytes : ∀ {blob : List UInt8}, blob ≠ [] → ∃ g : Grouping, blob = g.bytes
  | [a], _ => by
    have ha := a.toNat_lt
    have ha' : a.toNat / 4 * 4 + a.toNat % 4 * 16 / 16 = a.toNat := by omega
    refine ⟨⟨[], [a.toNat / 4, a.toNat % 4 * 16], by simp [AreValues], ?_, rfl, by simp, by simp,
      ?_⟩, ?_⟩
    · simp only [areValues_cons]
      exact ⟨by omega, by omega, by simp [AreValues]⟩
    · simp only [hasStrayBits, bne_eq_false_iff_eq]
      omega
    · simp only [Grouping.bytes, List.nil_append, bytes, ha', UInt8.ofNat_toNat]
  | [a, b], _ => by
    have ha := a.toNat_lt
    have hb := b.toNat_lt
    have ha' : a.toNat / 4 * 4 + (a.toNat % 4 * 16 + b.toNat / 16) / 16 = a.toNat := by omega
    have hb' : (a.toNat % 4 * 16 + b.toNat / 16) % 16 * 16 + b.toNat % 16 * 4 / 4 = b.toNat := by
      omega
    refine ⟨⟨[], [a.toNat / 4, a.toNat % 4 * 16 + b.toNat / 16, b.toNat % 16 * 4],
      by simp [AreValues], ?_, rfl, by simp, by simp, ?_⟩, ?_⟩
    · simp only [areValues_cons]
      exact ⟨by omega, by omega, by omega, by simp [AreValues]⟩
    · simp only [hasStrayBits, bne_eq_false_iff_eq]
      omega
    · simp only [Grouping.bytes, List.nil_append, bytes, ha', hb', UInt8.ofNat_toNat]
  | [a, b, c], _ =>
    ⟨⟨[], valuesOf a b c, by simp [AreValues], areValues_valuesOf a b c, rfl, by simp [valuesOf],
      by simp [valuesOf], rfl⟩, (bytes_valuesOf_append a b c []).symm⟩
  | a :: b :: c :: d :: blob, _ => by
    obtain ⟨g, hg⟩ := exists_grouping_bytes (List.cons_ne_nil d blob)
    have hlength : (valuesOf a b c ++ g.whole).length % 4 = 0 := by
      rw [List.length_append, show (valuesOf a b c).length = 4 from rfl]
      have := g.length_whole
      omega
    refine ⟨⟨valuesOf a b c ++ g.whole, g.last,
      areValues_append.mpr ⟨areValues_valuesOf a b c, g.areValues_whole⟩, g.areValues_last,
      hlength, g.two_le_length_last, g.length_last_le, g.hasStrayBits_last⟩, ?_⟩
    rw [hg, Grouping.bytes, Grouping.bytes, List.append_assoc, bytes_valuesOf_append]

/-- Decoding accepts exactly what encoding produces, and undoes it. -/
theorem decode_eq_ok_iff {bs blob : List UInt8} : decode bs = .ok blob ↔ bs = encode blob := by
  constructor
  · intro h
    by_cases hne : bs = []
    · subst hne
      cases h
      rfl
    · obtain ⟨g, rfl, rfl⟩ := exists_grouping_of_decode hne h
      exact g.encode_bytes.symm
  · rintro rfl
    by_cases hne : blob = []
    · subst hne
      rfl
    · obtain ⟨g, rfl⟩ := exists_grouping_bytes hne
      rw [g.encode_bytes, g.decode_text]

end CommitLint.Base64
