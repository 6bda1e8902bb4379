import Mathlib.Data.List.Basic

/-!
# Texts that lack a character

A text that is put together lacks a character exactly if all its parts do. The parts that do not
depend on anything are fixed words, which lack all control characters (`IsControl.lacks`), and
numbers, which do so too (`IsControl.lacks_toString`).
-/

namespace CommitLint.Text

/-- A text does not hold a character. -/
def Lacks (x : Char) (s : String) : Prop := x ∉ s.toList

instance (x : Char) (s : String) : Decidable (Lacks x s) :=
  inferInstanceAs (Decidable (x ∉ s.toList))

variable {x : Char} {s t : String}

theorem lacks_append : Lacks x (s ++ t) ↔ Lacks x s ∧ Lacks x t := by
  rw [Lacks, String.toList_append, List.mem_append, not_or]
  rfl

theorem Lacks.append (hs : Lacks x s) (ht : Lacks x t) : Lacks x (s ++ t) :=
  lacks_append.mpr ⟨hs, ht⟩

theorem lacks_append_left (h : Lacks x s) : Lacks x (s ++ t) ↔ Lacks x t :=
  lacks_append.trans (and_iff_right h)

theorem lacks_append_right (h : Lacks x t) : Lacks x (s ++ t) ↔ Lacks x s :=
  lacks_append.trans (and_iff_left h)

theorem lacks_ofList {s : List Char} : Lacks x (.ofList s) ↔ x ∉ s := by
  rw [Lacks, String.toList_ofList]

theorem lacks_toString_iff {c : Char} : Lacks x (toString c) ↔ x ≠ c := by
  have hone : (toString c).toList = [c] := String.toList_singleton c
  rw [Lacks, hone, List.mem_singleton]

theorem lacks_empty : Lacks x "" := List.not_mem_nil

theorem lacks_join {texts : List String} :
    Lacks x (String.join texts) ↔ ∀ s ∈ texts, Lacks x s := by
  simp only [Lacks, String.toList_join, List.mem_flatMap, not_exists, not_and]

/-- A separator that lacks the character makes no difference. -/
theorem lacks_intercalate {sep : String} (hsep : Lacks x sep) :
    ∀ {texts : List String}, Lacks x (sep.intercalate texts) ↔ ∀ s ∈ texts, Lacks x s
  | [] => iff_of_true lacks_empty (List.forall_mem_nil _)
  | [s] => by rw [String.intercalate_singleton, List.forall_mem_singleton]
  | s :: t :: texts => by
    rw [String.intercalate_cons_cons, lacks_append, lacks_append, lacks_intercalate hsep,
      and_iff_left hsep, List.forall_mem_cons (a := s)]

/-! ### Control characters -/

/-- The control characters before the space. -/
def IsControl (x : Char) : Prop := x.toNat < 32

instance (x : Char) : Decidable (IsControl x) := inferInstanceAs (Decidable (x.toNat < 32))

theorem IsControl.ne (hx : IsControl x) {c : Char} (hc : 32 ≤ c.toNat) : x ≠ c := by
  rintro rfl
  exact absurd hx (Nat.not_lt.mpr hc)

/-- Words without control characters lack each of them. -/
theorem IsControl.lacks (hx : IsControl x) {s : List Char} (h : s.all (32 ≤ ·.toNat)) :
    Lacks x (.ofList s) :=
  lacks_ofList.mpr fun hmem => hx.ne (of_decide_eq_true (List.all_eq_true.mp h x hmem)) rfl

/-- A text that is quoted between two fixed words. -/
theorem IsControl.lacks_between (hx : IsControl x) {first last : List Char}
    (hfirst : first.all (32 ≤ ·.toNat)) (hlast : last.all (32 ≤ ·.toNat)) (hs : Lacks x s) :
    Lacks x (.ofList first ++ s ++ .ofList last) :=
  ((hx.lacks hfirst).append hs).append (hx.lacks hlast)

/-- Two texts that are quoted among three fixed words. -/
theorem IsControl.lacks_among (hx : IsControl x) {first middle last : List Char}
    (hfirst : first.all (32 ≤ ·.toNat)) (hmiddle : middle.all (32 ≤ ·.toNat))
    (hlast : last.all (32 ≤ ·.toNat)) (hs : Lacks x s) (ht : Lacks x t) :
    Lacks x (.ofList first ++ s ++ .ofList middle ++ t ++ .ofList last) :=
  ((hx.lacks_between hfirst hmiddle hs).append ht).append (hx.lacks hlast)

theorem isDigit_of_mem_toString {n : Nat} {c : Char} (h : c ∈ (toString n).toList) :
    c.isDigit := by
  rw [Nat.toString_eq_ofList_toDigits, String.toList_ofList] at h
  exact Nat.isDigit_of_mem_toDigits (by decide) (by decide) h

theorem IsControl.lacks_toString (hx : IsControl x) (n : Nat) : Lacks x (toString n) := by
  intro h
  have hdigit := isDigit_of_mem_toString h
  have hleast : 48 ≤ x.toNat := by
    simp only [Char.isDigit, Bool.and_eq_true, decide_eq_true_eq] at hdigit
    exact hdigit.1
  exact hx.ne (Nat.le_trans (by decide) hleast) rfl

end CommitLint.Text
