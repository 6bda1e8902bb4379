import CommitLint.Proofs.Text.Casing
import CommitLint.Proofs.Text.Trim

/-!
# Lower case twice

Lower case moves the letters of a range by one distance. Where it moves them to, no range begins
again: the images of a range are apart from all that is moved (`CaseShift.Settles`, a check of the
table). So what lower case makes of a character is left as it is the next time
(`LowersTo.lowerChar_eq`), and to lower a text twice is to lower it once (`lower_lower`). The sigma
rule, which looks at the neighbours, does not matter any more then, as no capital sigma is left.

A character that is in no range and the image of none is caseless: lower case keeps it, and makes it
of no other character. A kind of characters that are all caseless, such as the blanks, is therefore
found at the ends of a text exactly if it is found there in lower case, so there is something to
trim either in both or in none (`trimBoth_lower_eq_self_iff`).
-/

namespace CommitLint.Text

/-! ### Ranges without a common code point -/

namespace CodeRange

variable {r s : CodeRange} {n : Nat}

theorem contains_iff : r.contains n ↔ r.first ≤ n ∧ n ≤ r.last ∧ (n - r.first) % r.step = 0 := by
  simp only [contains, Bool.and_eq_true, decide_eq_true_eq, beq_iff_eq, and_assoc]

/-- Whether the code points of the range are all even or all odd. -/
def isAlternate (r : CodeRange) : Bool := r.step == 2 || r.first == r.last

/-- Whether one range ends before the other begins, or their code points alternate. -/
def isApart (r s : CodeRange) : Bool :=
  r.last.blt s.first || s.last.blt r.first ||
    (r.isAlternate && s.isAlternate && (r.first + s.first) % 2 == 1)

theorem mod_two_of_isAlternate (h : r.isAlternate) (hn : r.contains n) :
    n % 2 = r.first % 2 := by
  rw [isAlternate, Bool.or_eq_true, beq_iff_eq, beq_iff_eq] at h
  obtain ⟨hfirst, hlast, hstep⟩ := contains_iff.mp hn
  obtain htwo | hsingle := h
  · rw [htwo] at hstep
    omega
  · omega

theorem contains_eq_false_of_isApart (h : r.isApart s) (hn : r.contains n) :
    s.contains n = false := by
  rw [Bool.eq_false_iff]
  intro hs
  obtain ⟨hfirst, hlast, -⟩ := contains_iff.mp hn
  obtain ⟨hfirst', hlast', -⟩ := contains_iff.mp hs
  simp only [isApart, Bool.or_eq_true, Bool.and_eq_true, Nat.blt_eq, beq_iff_eq] at h
  obtain (hbefore | hafter) | ⟨⟨hr, hs'⟩, hparity⟩ := h
  · omega
  · omega
  · have hleft := mod_two_of_isAlternate hr hn
    have hright := mod_two_of_isAlternate hs' hs
    omega

end CodeRange

/-! ### The images of a range -/

namespace CaseShift

variable {shift : CaseShift}

/-- The code points that those of a range are moved to. -/
def image (shift : CaseShift) : CodeRange :=
  ⟨(shift.codes.first + shift.offset).toNat, (shift.codes.last + shift.offset).toNat,
    shift.codes.step⟩

/-- The images of a range are characters, and lower case leaves them as they are. -/
structure Settles (shift : CaseShift) : Prop where
  nonneg : 0 ≤ shift.codes.first + shift.offset
  isValidChar : shift.image.last < 0xD800 ∨ 0xDFFF < shift.image.first ∧ shift.image.last < 0x110000
  isApart : ∀ other ∈ lowerShifts, shift.image.isApart other.codes
  notMem : ∀ e ∈ lowerExpansions, shift.image.contains e.1 = false

theorem settles_of_mem (h : shift ∈ lowerShifts) : shift.Settles := by
  have table : ∀ shift ∈ lowerShifts, 0 ≤ shift.codes.first + shift.offset ∧
      (shift.image.last < 0xD800 ∨ 0xDFFF < shift.image.first ∧ shift.image.last < 0x110000) ∧
      ∀ e ∈ lowerExpansions, shift.image.contains e.1 = false := by
    decide +kernel
  have pairs : lowerShifts.all (fun shift => lowerShifts.all (shift.image.isApart ·.codes)) := by
    decide +kernel
  obtain ⟨hnonneg, hvalid, hnot⟩ := table shift h
  exact ⟨hnonneg, hvalid, List.all_eq_true.mp (List.all_eq_true.mp pairs shift h), hnot⟩

theorem Settles.toNat_shiftedChar (h : shift.Settles) {n : Nat} (hn : shift.codes.contains n) :
    (shiftedChar n shift.offset).toNat = (n + shift.offset).toNat := by
  obtain ⟨hfirst, hlast, -⟩ := CodeRange.contains_iff.mp hn
  have hvalid := h.isValidChar
  have hnonneg := h.nonneg
  simp only [image] at hvalid
  refine toNat_ofNat_of_isValidChar ?_
  rw [Nat.isValidChar]
  omega

theorem Settles.contains_image (h : shift.Settles) {n : Nat} (hn : shift.codes.contains n) :
    shift.image.contains (shiftedChar n shift.offset).toNat := by
  obtain ⟨hfirst, hlast, hstep⟩ := CodeRange.contains_iff.mp hn
  have hnonneg := h.nonneg
  -- The distance from the first code point stays the same.
  have hdistance : (n + shift.offset).toNat - (shift.codes.first + shift.offset).toNat =
      n - shift.codes.first := by
    omega
  rw [h.toNat_shiftedChar hn, CodeRange.contains_iff, image]
  simp only [hdistance, hstep, and_true]
  omega

end CaseShift

/-! ### What lower case makes of a character -/

/-- What lower case makes of a character, in a text: nothing else, the character at the distance of
its range, several characters, or of a capital sigma the final one. -/
inductive LowersTo (c : Char) : List Char → Prop
  | same : lowerChar c = [c] → LowersTo c [c]
  | shifted {shift : CaseShift} : shift ∈ lowerShifts → shift.codes.contains c.toNat →
      LowersTo c [shiftedChar c.toNat shift.offset]
  | expanded {ns : List Nat} : (c.toNat, ns) ∈ lowerExpansions → LowersTo c (ns.map Char.ofNat)
  | finalSigma : c = 'Σ' → LowersTo c ['ς']

theorem lowersTo_lowerChar (c : Char) : LowersTo c (lowerChar c) := by
  by_cases hascii : isAscii c
  · by_cases hcapital : isCapitalAscii c
    · have hletters : (⟨⟨0x41, 0x5A, 1⟩, 32⟩ : CaseShift) ∈ lowerShifts := List.Mem.head _
      have hc := isCapitalAscii_iff.mp hcapital
      rw [lowerChar, if_pos hascii, if_pos hcapital]
      exact .shifted hletters (CodeRange.contains_iff.mpr ⟨hc.1, hc.2, Nat.mod_one _⟩)
    · have hsame : lowerChar c = [c] := by rw [lowerChar, if_pos hascii, if_neg hcapital]
      rw [hsame]
      exact .same hsame
  · have hmap : lowerChar c = mapCase lowerShifts lowerExpansions c := by
      rw [lowerChar, if_neg hascii]
    cases hlookup : lowerExpansions.lookup c.toNat with
    | some ns =>
      have hexpanded : lowerChar c = ns.map Char.ofNat := by simp only [hmap, mapCase, hlookup]
      obtain ⟨before, after, htable, -⟩ := List.lookup_eq_some_iff.mp hlookup
      rw [hexpanded]
      exact .expanded (htable ▸ List.mem_append_right before List.mem_cons_self)
    | none =>
      cases hfind : lowerShifts.find? (·.codes.contains c.toNat) with
      | some shift =>
        have hshifted : lowerChar c = [shiftedChar c.toNat shift.offset] := by
          simp only [hmap, mapCase, hlookup, hfind]
        have hcodes := List.find?_some hfind
        rw [hshifted]
        exact .shifted (List.mem_of_find?_eq_some hfind) hcodes
      | none =>
        have hsame : lowerChar c = [c] := by simp only [hmap, mapCase, hlookup, hfind]
        rw [hsame]
        exact .same hsame

/-- A character that is in no table stands for itself. -/
theorem LowersTo.eq_singleton {c : Char} {image : List Char} (h : LowersTo c image)
    (hshifts : ∀ shift ∈ lowerShifts, shift.codes.contains c.toNat = false)
    (hexpansions : ∀ e ∈ lowerExpansions, e.1 ≠ c.toNat) : image = [c] := by
  cases h with
  | same => rfl
  | shifted hshift hcodes => exact absurd hcodes (Bool.eq_false_iff.mp (hshifts _ hshift))
  | expanded hmem => exact absurd rfl (hexpansions _ hmem)
  | finalSigma hsigma =>
    have hlisted : lowerShifts.any (·.codes.contains 'Σ'.toNat) := by decide +kernel
    obtain ⟨shift, hshift, hcodes⟩ := List.any_eq_true.mp hlisted
    rw [← hsigma] at hcodes
    exact absurd hcodes (Bool.eq_false_iff.mp (hshifts shift hshift))

theorem LowersTo.ne_nil {c : Char} {image : List Char} (h : LowersTo c image) : image ≠ [] := by
  cases h with
  | same | shifted | finalSigma => exact List.cons_ne_nil _ _
  | expanded hmem =>
    have table : ∀ e ∈ lowerExpansions, e.2.map Char.ofNat ≠ [] := by decide
    exact table _ hmem

/-- What lower case has made of a character stays as it is. -/
theorem LowersTo.lowerChar_eq {c d : Char} {image : List Char} (h : LowersTo c image)
    (hd : d ∈ image) : lowerChar d = [d] := by
  cases h with
  | same hsame =>
    rw [List.mem_singleton.mp hd]
    exact hsame
  | shifted hshift hc =>
    rw [List.mem_singleton] at hd
    have hsettles := CaseShift.settles_of_mem hshift
    have himage := hsettles.contains_image hc
    rw [← hd] at himage
    refine (lowersTo_lowerChar d).eq_singleton (fun other hother => ?_) (fun e he heq => ?_)
    · exact CodeRange.contains_eq_false_of_isApart (hsettles.isApart other hother) himage
    · rw [← heq, hsettles.notMem e he] at himage
      exact Bool.noConfusion himage
  | expanded hmem =>
    have table : ∀ e ∈ lowerExpansions, (e.2.map Char.ofNat).all fun d => lowerChar d == [d] := by
      decide +kernel
    exact beq_iff_eq.mp (List.all_eq_true.mp (table _ hmem) d hd)
  | finalSigma =>
    rw [List.mem_singleton.mp hd]
    decide +kernel

/-! ### Lowering a text -/

/-- Lower case goes through a text character by character. -/
theorem exists_lowerAfter_cons (before : List Char) (c : Char) (s : List Char) :
    ∃ image, LowersTo c image ∧
      lowerAfter before (c :: s) = image ++ lowerAfter (c :: before) s := by
  refine ⟨_, ?_, rfl⟩
  split
  · rename_i hsigma
    split
    · exact .finalSigma hsigma
    · have hlower : lowerChar 'Σ' = ['σ'] := by decide +kernel
      rw [hsigma, ← hlower]
      exact lowersTo_lowerChar 'Σ'
  · exact lowersTo_lowerChar c

theorem lowerChar_eq_of_mem_lowerAfter {d : Char} :
    ∀ {s before : List Char}, d ∈ lowerAfter before s → lowerChar d = [d]
  | [], _, h => absurd h List.not_mem_nil
  | c :: s, before, h => by
    obtain ⟨image, himage, heq⟩ := exists_lowerAfter_cons before c s
    rw [heq, List.mem_append] at h
    obtain h | h := h
    · exact himage.lowerChar_eq h
    · exact lowerChar_eq_of_mem_lowerAfter h

/-- Nothing is left of a capital sigma for which the neighbours would matter. -/
theorem lowerAfter_eq_self : ∀ {s : List Char} (before : List Char),
    (∀ c ∈ s, lowerChar c = [c]) → lowerAfter before s = s
  | [], _, _ => rfl
  | c :: s, before, h => by
    obtain ⟨hc, hs⟩ := List.forall_mem_cons.mp h
    have hsigma : c ≠ 'Σ' := by
      rintro rfl
      revert hc
      decide +kernel
    rw [lowerAfter, if_neg hsigma, hc, lowerAfter_eq_self (c :: before) hs, List.singleton_append]

theorem lower_eq_self {s : List Char} (h : ∀ c ∈ s, lowerChar c = [c]) : lower s = s :=
  lowerAfter_eq_self [] h

theorem lowerChar_eq_of_mem_lower {s : List Char} {c : Char} (h : c ∈ lower s) :
    lowerChar c = [c] :=
  lowerChar_eq_of_mem_lowerAfter h

/-- To lower a text twice is to lower it once. -/
theorem lower_lower (s : List Char) : lower (lower s) = lower s :=
  lower_eq_self fun _ => lowerChar_eq_of_mem_lower

/-! ### Characters without case -/

/-- Whether lower case keeps a character, and makes it of no other one. -/
def isCaseless (c : Char) : Bool :=
  lowerShifts.all (fun shift =>
      !shift.codes.contains c.toNat && !shift.image.contains c.toNat) &&
    lowerExpansions.all (fun e => e.1 != c.toNat && !(e.2.map Char.ofNat).contains c) && c != 'ς'

section Caseless

variable {c d : Char} {image : List Char}

theorem isCaseless_iff : isCaseless c ↔
    (∀ shift ∈ lowerShifts,
      shift.codes.contains c.toNat = false ∧ shift.image.contains c.toNat = false) ∧
    (∀ e ∈ lowerExpansions, e.1 ≠ c.toNat ∧ c ∉ e.2.map Char.ofNat) ∧ c ≠ 'ς' := by
  simp only [isCaseless, Bool.and_eq_true, List.all_eq_true, Bool.not_eq_true', bne_iff_ne,
    List.contains_eq_mem, decide_eq_false_iff_not, and_assoc]

/-- Lower case keeps a caseless character. -/
theorem LowersTo.eq_of_isCaseless (h : LowersTo c image) (hc : isCaseless c) : image = [c] := by
  obtain ⟨hshifts, hexpansions, -⟩ := isCaseless_iff.mp hc
  exact h.eq_singleton (fun shift hshift => (hshifts shift hshift).1)
    fun e he => (hexpansions e he).1

/-- A caseless character is what lower case makes of itself only. -/
theorem LowersTo.eq_of_mem_of_isCaseless (h : LowersTo c image) (hd : d ∈ image)
    (hcaseless : isCaseless d) : d = c := by
  obtain ⟨hshifts, hexpansions, hsigma⟩ := isCaseless_iff.mp hcaseless
  cases h with
  | same => exact List.mem_singleton.mp hd
  | shifted hshift hcodes =>
    have himage := (CaseShift.settles_of_mem hshift).contains_image hcodes
    rw [← List.mem_singleton.mp hd, (hshifts _ hshift).2] at himage
    exact Bool.noConfusion himage
  | expanded hmem => exact absurd hd (hexpansions _ hmem).2
  | finalSigma => exact absurd (List.mem_singleton.mp hd) hsigma

/-- A kind of caseless characters has in lower case the members that it has anyway. -/
theorem LowersTo.apply_eq {p : Char → Bool} (hp : ∀ c, p c → isCaseless c)
    (h : LowersTo c image) (hd : d ∈ image) : p d = p c := by
  by_cases hc : p c
  · rw [h.eq_of_isCaseless (hp c hc), List.mem_singleton] at hd
    rw [hd]
  · by_cases hpd : p d
    · rw [h.eq_of_mem_of_isCaseless hd (hp d hpd)]
    · rw [Bool.eq_false_iff.mpr hc, Bool.eq_false_iff.mpr hpd]

end Caseless

theorem isCaseless_of_isBlank {c : Char} (h : isBlank c) : isCaseless c := by
  have table : ∀ n ∈ blankCodes, isCaseless (Char.ofNat n) := by decide +kernel
  have hc := table c.toNat (toNat_mem_blankCodes h)
  rwa [Char.ofNat_toNat] at hc

/-! ### The ends of a lowered text -/

section Ends

variable {p : Char → Bool} (hp : ∀ c, p c → isCaseless c)
include hp

theorem any_head?_lower (s : List Char) : (lower s).head?.any p = s.head?.any p := by
  cases s with
  | nil => rfl
  | cons c s =>
    obtain ⟨image, himage, heq⟩ := exists_lowerAfter_cons [] c s
    obtain ⟨d, rest, rfl⟩ := List.exists_cons_of_ne_nil himage.ne_nil
    rw [lower, heq]
    exact himage.apply_eq hp List.mem_cons_self

theorem any_getLast?_lowerAfter (s : List Char) :
    ∀ before, (lowerAfter before s).getLast?.any p = s.getLast?.any p := by
  induction s with
  | nil => exact fun _ => rfl
  | cons c s ih =>
    intro before
    obtain ⟨image, himage, heq⟩ := exists_lowerAfter_cons before c s
    rw [heq]
    cases s with
    | nil =>
      obtain ⟨rest, d, rfl⟩ := (List.eq_nil_or_concat image).resolve_left himage.ne_nil
      have hd : p d = p c := himage.apply_eq hp (by simp)
      simpa [lowerAfter] using hd
    | cons c' s =>
      have hrest := ih (c :: before)
      obtain ⟨image', himage', heq'⟩ := exists_lowerAfter_cons (c :: before) c' s
      have hne : lowerAfter (c :: before) (c' :: s) ≠ [] := by
        rw [heq']
        exact List.append_ne_nil_of_left_ne_nil himage'.ne_nil _
      rw [List.getLast?_append_of_ne_nil _ hne, List.getLast?_cons_cons]
      exact hrest

theorem any_getLast?_lower (s : List Char) : (lower s).getLast?.any p = s.getLast?.any p :=
  any_getLast?_lowerAfter hp s []

/-- A text that is trimmed is so in lower case, and the other way round. -/
theorem trimBoth_lower_eq_self_iff (s : List Char) :
    trimBoth p (lower s) = lower s ↔ trimBoth p s = s := by
  rw [trimBoth_eq_self_iff, trimBoth_eq_self_iff, any_head?_lower hp, any_getLast?_lower hp]

end Ends

end CommitLint.Text
