import CommitLint.Text.Blank
import CommitLint.Text.Letter
import Mathlib.Data.List.TakeWhile

/-!
# Trimming

Trimming takes characters of a kind away at both ends, as many as there are (`trimsTo_iff`); where
there are none it changes nothing (`trimBoth_eq_self_iff`), so trimming twice is trimming
(`trimBoth_trimBoth`). `trim` does so with blanks: it leaves a text without blanks as it is
(`trim_eq_self`), and what remains consists of characters of the text. Blanks put at the end make no
difference (`trim_append_of_isBlankText`), so trimming the end first is trimming (`trim_trimEnd`).
Characters of words are never blank (`isBlank_eq_false_of_isWordChar`), so trimming keeps words.
-/

namespace CommitLint.Text

/-! ### Dropping at the end -/

theorem dropEndWhile_isPrefix {α : Type} (p : α → Bool) : ∀ l : List α, dropEndWhile p l <+: l
  | [] => List.prefix_rfl
  | a :: l => by
    have ih := dropEndWhile_isPrefix p l
    rw [dropEndWhile]
    split
    · split
      · exact List.nil_prefix
      · exact List.cons_prefix_cons.mpr ⟨rfl, List.nil_prefix⟩
    · rename_i b r h
      rw [h] at ih
      exact List.cons_prefix_cons.mpr ⟨rfl, ih⟩

theorem dropEndWhile_eq_self {α : Type} {p : α → Bool} :
    ∀ {l : List α}, (∀ a ∈ l, p a = false) → dropEndWhile p l = l
  | [], _ => rfl
  | a :: l, h => by
    rw [dropEndWhile, dropEndWhile_eq_self fun b hb => h b (List.mem_cons_of_mem a hb)]
    cases l with
    | nil => simp [h a]
    | cons b l => rfl

/-- What ends in an element that is to be kept is left as it is. -/
theorem dropEndWhile_append_singleton {α : Type} {p : α → Bool} {a : α} (h : p a = false) :
    ∀ l : List α, dropEndWhile p (l ++ [a]) = l ++ [a]
  | [] => by rw [List.nil_append, dropEndWhile, dropEndWhile, if_neg (by simp [h])]
  | b :: l => by
    rw [List.cons_append, dropEndWhile, dropEndWhile_append_singleton h l]
    split
    · rename_i hnil
      simp at hnil
    · rename_i c r hcons
      rw [hcons]

theorem dropEndWhile_eq_nil_iff {α : Type} {p : α → Bool} {l : List α} :
    dropEndWhile p l = [] ↔ ∀ a ∈ l, p a := by
  induction l with
  | nil => simp [dropEndWhile]
  | cons a l ih =>
    rw [List.forall_mem_cons, ← ih, dropEndWhile]
    split
    · rename_i h
      rw [h]
      split <;> simp_all
    · rename_i h
      simp [h]

/-- What is to be dropped at the end can be there or not. -/
theorem dropEndWhile_append {α : Type} {p : α → Bool} {ending : List α} (h : ∀ a ∈ ending, p a) :
    ∀ l : List α, dropEndWhile p (l ++ ending) = dropEndWhile p l
  | [] => dropEndWhile_eq_nil_iff.mpr h
  | a :: l => by rw [List.cons_append, dropEndWhile, dropEndWhile_append h l, dropEndWhile]

/-- What is left and what was dropped are the whole. -/
theorem exists_eq_dropEndWhile_append {α : Type} (p : α → Bool) :
    ∀ l : List α, ∃ ending, l = dropEndWhile p l ++ ending ∧ ∀ a ∈ ending, p a
  | [] => ⟨[], rfl, List.forall_mem_nil _⟩
  | a :: l => by
    obtain ⟨ending, heq, hending⟩ := exists_eq_dropEndWhile_append p l
    rw [dropEndWhile]
    split
    · rename_i hnil
      rw [hnil, List.nil_append] at heq
      split
      · rename_i ha
        exact ⟨a :: l, rfl, List.forall_mem_cons.mpr ⟨ha, heq ▸ hending⟩⟩
      · exact ⟨l, rfl, heq ▸ hending⟩
    · rename_i b r hcons
      rw [hcons] at heq
      exact ⟨ending, congrArg (a :: ·) heq, hending⟩

/-- What is left does not end in an element that was to be dropped. -/
theorem eq_false_of_dropEndWhile_eq {α : Type} {p : α → Bool} {a : α} :
    ∀ {l r : List α}, dropEndWhile p l = r ++ [a] → p a = false
  | [], r, h => by simp [dropEndWhile] at h
  | b :: l, r, h => by
    rw [dropEndWhile] at h
    split at h
    · split at h
      · simp at h
      · rename_i hb
        cases r with
        | nil =>
          cases h
          simpa using hb
        | cons c r => simp at h
    · rename_i c r' hl
      cases r with
      | nil => simp at h
      | cons d r =>
        rw [List.cons_append, List.cons_eq_cons, ← hl] at h
        exact eq_false_of_dropEndWhile_eq h.2

/-! ### Trimming at both ends -/

/-- What is left of a text when it is trimmed: characters that satisfy `p` stand around it, and
none at its own ends. -/
def TrimsTo (p : Char → Bool) (s t : List Char) : Prop :=
  ∃ start ending, s = start ++ t ++ ending ∧ (∀ c ∈ start, p c) ∧ (∀ c ∈ ending, p c) ∧
    (∀ c ∈ t.head?, p c = false) ∧ ∀ c ∈ t.getLast?, p c = false

theorem trimsTo_trimBoth (p : Char → Bool) (s : List Char) : TrimsTo p s (trimBoth p s) := by
  obtain ⟨ending, heq, hending⟩ := exists_eq_dropEndWhile_append p (s.dropWhile p)
  refine ⟨s.takeWhile p, ending, ?_, fun c hc => List.mem_takeWhile_imp hc, hending,
    fun c hc => ?_, fun c hc => ?_⟩
  · rw [List.append_assoc, trimBoth, ← heq, List.takeWhile_append_dropWhile]
  · obtain ⟨t, ht⟩ := List.head?_eq_some_iff.mp hc
    have hstop := List.head?_dropWhile_not p s
    rw [heq, ← trimBoth, ht] at hstop
    simpa using hstop
  · obtain ⟨t, ht⟩ := List.getLast?_eq_some_iff.mp hc
    exact eq_false_of_dropEndWhile_eq ht

theorem TrimsTo.trimBoth_eq {p : Char → Bool} {s t : List Char} (h : TrimsTo p s t) :
    trimBoth p s = t := by
  obtain ⟨start, ending, rfl, hstart, hending, hhead, hlast⟩ := h
  rw [trimBoth, List.append_assoc, List.dropWhile_append_of_pos hstart]
  cases t with
  | nil => rw [List.nil_append, List.dropWhile_eq_nil_iff.mpr hending, dropEndWhile]
  | cons c t =>
    have hc : p c = false := hhead c rfl
    rw [List.cons_append, List.dropWhile_cons_of_neg (by simp [hc]), ← List.cons_append,
      dropEndWhile_append hending]
    obtain ⟨r, d, hr⟩ := (List.eq_nil_or_concat (c :: t)).resolve_left (List.cons_ne_nil c t)
    rw [List.concat_eq_append] at hr
    rw [hr, dropEndWhile_append_singleton (hlast d (by rw [hr, List.getLast?_concat]; rfl))]

theorem trimsTo_iff {p : Char → Bool} {s t : List Char} : TrimsTo p s t ↔ trimBoth p s = t :=
  ⟨TrimsTo.trimBoth_eq, fun h => h ▸ trimsTo_trimBoth p s⟩

theorem trimBoth_isInfix (p : Char → Bool) (s : List Char) : trimBoth p s <:+: s :=
  (dropEndWhile_isPrefix p _).isInfix.trans (List.dropWhile_suffix p).isInfix

theorem trimBoth_subset (p : Char → Bool) (s : List Char) : trimBoth p s ⊆ s :=
  (trimBoth_isInfix p s).subset

/-- Trimming leaves exactly those texts as they are that neither begin nor end with a character of
the kind. -/
theorem trimBoth_eq_self_iff {p : Char → Bool} {s : List Char} :
    trimBoth p s = s ↔ s.head?.any p = false ∧ s.getLast?.any p = false := by
  have hany : ∀ o : Option Char, o.any p = false ↔ ∀ c ∈ o, p c = false := by
    intro o
    cases o <;> simp
  rw [hany, hany, ← trimsTo_iff]
  constructor
  · rintro ⟨-, -, -, -, -, hhead, hlast⟩
    exact ⟨hhead, hlast⟩
  · rintro ⟨hhead, hlast⟩
    exact ⟨[], [], (List.append_nil s).symm, List.forall_mem_nil _, List.forall_mem_nil _, hhead,
      hlast⟩

/-- What is trimmed is left as it is. -/
theorem trimBoth_trimBoth (p : Char → Bool) (s : List Char) :
    trimBoth p (trimBoth p s) = trimBoth p s := by
  obtain ⟨-, -, -, -, -, hhead, hlast⟩ := trimsTo_trimBoth p s
  exact TrimsTo.trimBoth_eq ⟨[], [], (List.append_nil _).symm, List.forall_mem_nil _,
    List.forall_mem_nil _, hhead, hlast⟩

/-! ### Blanks at the ends -/

theorem trimEnd_subset (s : List Char) : trimEnd s ⊆ s :=
  (dropEndWhile_isPrefix isBlank s).subset

/-- A text without blanks is trimmed. -/
theorem trim_eq_self {s : List Char} (h : ∀ c ∈ s, isBlank c = false) : trim s = s := by
  have hstart : s.dropWhile isBlank = s := by
    cases s with
    | nil => rfl
    | cons c s => exact List.dropWhile_cons_of_neg (by simp [h c])
  rw [trim, trimBoth, hstart, dropEndWhile_eq_self h]

/-- So is a text without blanks at either end. -/
theorem trim_cons_append {a b : Char} (ha : isBlank a = false) (hb : isBlank b = false)
    (s : List Char) : trim (a :: s ++ [b]) = a :: s ++ [b] := by
  rw [trim, trimBoth, List.cons_append, List.dropWhile_cons_of_neg (by simp [ha]),
    ← List.cons_append, dropEndWhile_append_singleton hb]

/-- Only blanks are trimmed to nothing. -/
theorem trim_eq_nil_iff {s : List Char} : trim s = [] ↔ isBlankText s := by
  rw [trim, trimBoth, dropEndWhile_eq_nil_iff, isBlankText, List.all_eq_true]
  refine ⟨fun h => ?_, fun h c hc => h c ((List.dropWhile_suffix isBlank).mem hc)⟩
  -- What precedes the first character that is not blank is blank anyway.
  rw [← List.takeWhile_append_dropWhile (p := isBlank) (l := s)]
  exact List.forall_mem_append.mpr ⟨List.all_eq_true.mp List.all_takeWhile, h⟩

/-- Blanks at the end do not matter. -/
theorem trim_append_of_isBlankText {s ending : List Char} (h : isBlankText ending) :
    trim (s ++ ending) = trim s := by
  have hending : ∀ c ∈ ending, isBlank c := List.all_eq_true.mp h
  rw [trim, trim, trimBoth, trimBoth, List.dropWhile_append]
  split
  · rename_i hs
    rw [List.isEmpty_iff.mp hs, List.dropWhile_eq_nil_iff.mpr hending]
  · exact dropEndWhile_append hending _

/-- Blanks at the beginning do not matter either. -/
theorem trim_append_of_isBlankText_left {start : List Char} (h : isBlankText start)
    (s : List Char) : trim (start ++ s) = trim s := by
  rw [trim, trim, trimBoth, trimBoth, List.dropWhile_append_of_pos (List.all_eq_true.mp h)]

theorem trim_cons_of_isBlank {c : Char} (hc : isBlank c) (s : List Char) :
    trim (c :: s) = trim s := by
  rw [trim, trim, trimBoth, trimBoth, List.dropWhile_cons_of_pos hc]

/-- Trimming takes blanks away and nothing else. -/
theorem exists_eq_append_trim_append (s : List Char) :
    ∃ start ending, s = start ++ trim s ++ ending ∧ isBlankText start ∧ isBlankText ending := by
  obtain ⟨ending, heq, hending⟩ := exists_eq_dropEndWhile_append isBlank (s.dropWhile isBlank)
  refine ⟨s.takeWhile isBlank, ending, ?_, List.all_takeWhile, List.all_eq_true.mpr hending⟩
  rw [trim, trimBoth, List.append_assoc, ← heq, List.takeWhile_append_dropWhile]

theorem trim_trim (s : List Char) : trim (trim s) = trim s := trimBoth_trimBoth isBlank s

theorem trim_trimEnd (s : List Char) : trim (trimEnd s) = trim s := by
  obtain ⟨ending, heq, hending⟩ := exists_eq_dropEndWhile_append isBlank s
  calc trim (trimEnd s)
      = trim (trimEnd s ++ ending) :=
        (trim_append_of_isBlankText (List.all_eq_true.mpr hending)).symm
    _ = trim s := congrArg trim heq.symm

/-- Texts that differ in blanks at the end differ in blanks only. -/
theorem trim_eq_of_trimEnd_eq {s t : List Char} (h : trimEnd s = trimEnd t) : trim s = trim t := by
  rw [← trim_trimEnd s, h, trim_trimEnd]

theorem not_isBlankText_of_mem {c : Char} {s : List Char} (hc : isBlank c = false) (h : c ∈ s) :
    ¬isBlankText s := fun hblank =>
  Bool.eq_false_iff.mp hc (List.all_eq_true.mp hblank c h)

theorem notMem_of_isBlankText {c : Char} (hc : isBlank c = false) {s : List Char}
    (h : isBlankText s) : c ∉ s := fun hmem => not_isBlankText_of_mem hc hmem h

/-- A text is as blank as what remains of it without some leading blanks. -/
theorem isBlankText_dropWhile {p : Char → Bool} (hp : ∀ c, p c → isBlank c) (s : List Char) :
    isBlankText (s.dropWhile p) = isBlankText s := by
  have hstart : (s.takeWhile p).all isBlank = true :=
    List.all_eq_true.mpr fun c hc => hp c (List.mem_takeWhile_imp hc)
  calc isBlankText (s.dropWhile p)
      = isBlankText (s.takeWhile p ++ s.dropWhile p) := by
        rw [isBlankText, isBlankText, List.all_append, hstart, Bool.true_and]
    _ = isBlankText s := by rw [List.takeWhile_append_dropWhile]

/-- A trimmed text has no end that consists of blanks. -/
theorem trim_ne_nil_of_trim_eq_append {s start rest : List Char} (h : trim s = start ++ rest)
    (hrest : rest ≠ []) : trim rest ≠ [] := by
  intro hnil
  have hblank := List.all_eq_true.mp (trim_eq_nil_iff.mp hnil)
  obtain ⟨r, c, rfl⟩ := (List.eq_nil_or_concat rest).resolve_left hrest
  rw [trim, trimBoth, List.concat_eq_append, ← List.append_assoc] at h
  have hc := eq_false_of_dropEndWhile_eq h
  rw [hblank c (by simp)] at hc
  cases hc

theorem ne_nil_of_not_isBlankText {s : List Char} (h : ¬isBlankText s) : s ≠ [] := by
  rintro rfl
  exact h rfl

/-- What follows a blank in a trimmed text is not blank. -/
theorem not_isBlankText_of_trim_eq_append {s before after : List Char} {b : Char} (hb : isBlank b)
    (h : trim s = before ++ b :: after) : ¬isBlankText after := by
  intro hafter
  refine trim_ne_nil_of_trim_eq_append h (List.cons_ne_nil b after) ?_
  rw [trim_cons_of_isBlank hb, trim_eq_nil_iff.mpr hafter]

/-! ### Blanks and word characters -/

/-- The twenty-five blanks. -/
def blankCodes : List Nat :=
  List.range' 0x9 5 ++ [0x20, 0x85, 0xA0, 0x1680] ++ List.range' 0x2000 11 ++
    [0x2028, 0x2029, 0x202F, 0x205F, 0x3000]

theorem toNat_mem_blankCodes {c : Char} (h : isBlank c) : c.toNat ∈ blankCodes := by
  simp only [isBlank, Bool.or_eq_true, Bool.and_eq_true, decide_eq_true_eq, beq_iff_eq] at h
  simp only [blankCodes, List.mem_append, List.mem_range'_1, List.mem_cons, List.not_mem_nil]
  omega

/-- No blank belongs to a word. -/
theorem isBlank_eq_false_of_isWordChar {c : Char} (h : isWordChar c) : isBlank c = false := by
  have table : ∀ n ∈ blankCodes, isWordChar (Char.ofNat n) = false := by decide +kernel
  refine Bool.eq_false_iff.mpr fun hblank => ?_
  have hc := table c.toNat (toNat_mem_blankCodes hblank)
  rw [Char.ofNat_toNat, h] at hc
  exact Bool.noConfusion hc

end CommitLint.Text
