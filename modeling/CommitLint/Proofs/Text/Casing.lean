import CommitLint.Proofs.Text.Utf8
import CommitLint.Text.Casing
import Mathlib.Data.List.Forall2

/-!
# The case of ASCII letters

Two texts are the same but for the case of ASCII letters if they are so character by character:
`sameIgnoringAsciiCase_iff` says this without lowering either of them.
-/

namespace CommitLint.Text

/-- Two characters are equal, or an ASCII letter in its two cases. -/
def SameButCase (c d : Char) : Prop :=
  c = d ∨ (isCapitalAscii c ∧ d.toNat = c.toNat + 32) ∨ (isCapitalAscii d ∧ c.toNat = d.toNat + 32)

theorem isCapitalAscii_iff {c : Char} : isCapitalAscii c = true ↔ 65 ≤ c.toNat ∧ c.toNat ≤ 90 := by
  rw [isCapitalAscii, Bool.and_eq_true, decide_eq_true_eq, decide_eq_true_eq]
  exact Iff.rfl

theorem toNat_asciiLower (c : Char) :
    (asciiLower c).toNat = if isCapitalAscii c then c.toNat + 32 else c.toNat := by
  rw [asciiLower]
  split
  · rename_i hcapital
    have hc := isCapitalAscii_iff.mp hcapital
    have hcode : ((c.toNat : Int) + 32).toNat = c.toNat + 32 := by omega
    rw [shiftedChar, hcode, toNat_ofNat_of_isValidChar (.inl (by omega))]
  · rfl

theorem asciiLower_eq_iff {c d : Char} : asciiLower c = asciiLower d ↔ SameButCase c d := by
  have hc := isCapitalAscii_iff (c := c)
  have hd := isCapitalAscii_iff (c := d)
  rw [← Char.toNat_inj, toNat_asciiLower, toNat_asciiLower, SameButCase, ← Char.toNat_inj]
  grind

theorem sameIgnoringAsciiCase_iff {s t : List Char} :
    sameIgnoringAsciiCase s t = true ↔ List.Forall₂ SameButCase s t := by
  rw [sameIgnoringAsciiCase, beq_iff_eq]
  induction s generalizing t with
  | nil => cases t <;> simp
  | cons c s ih =>
    cases t with
    | nil => simp
    | cons d t =>
      rw [List.map_cons, List.map_cons, List.cons_eq_cons, List.forall₂_cons, asciiLower_eq_iff, ih]

end CommitLint.Text
