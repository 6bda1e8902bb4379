import CommitLint.Proofs.Text.Pieces
import CommitLint.Proofs.Text.Trim

/-!
# Line ends and blanks at the end

Two ways to change a text that its lines hardly notice. Carriage returns before the line feeds go
with them, so the lines stay the same (`lines_replaceChar`). Blanks at the end of a text make the
last line longer and put blank lines after it: `BlankExtension` says so of two lists of lines, and
`blankExtension_lines` is the reason for it. What is made of the lines by taking a first line, by
leaving out blank lines at the start, or by joining lines and trimming the end, does not depend on
such an extension.

Both facts go from line to line through a text (`pieceInduction`).
-/

namespace CommitLint.Text

theorem lines_of_notMem {s : List Char} (h : '\n' ∉ s) :
    lines s = if s.isEmpty then [] else [s] := by
  rw [lines, pieces_of_notMem h, linesOfPieces]

/-! ### Carriage returns -/

theorem dropCarriageReturn_cons {c : Char} {s : List Char} (h : s ≠ []) :
    dropCarriageReturn (c :: s) = c :: dropCarriageReturn s := by
  rw [dropCarriageReturn]
  exact fun _ hs => h hs

theorem dropCarriageReturn_append (s : List Char) : dropCarriageReturn (s ++ ['\r']) = s := by
  induction s with
  | nil => rfl
  | cons c s ih => rw [List.cons_append, dropCarriageReturn_cons (by simp), ih]

theorem dropCarriageReturn_of_notMem {s : List Char} (h : '\r' ∉ s) :
    dropCarriageReturn s = s := by
  induction s with
  | nil => rfl
  | cons c s ih =>
    obtain ⟨hc, hs⟩ := not_or.mp (mt List.mem_cons.mpr h)
    rw [dropCarriageReturn, ih hs]
    exact fun hc' _ => hc hc'.symm

/-- Carriage returns that are put before the line feeds are not seen in the lines. -/
theorem lines_replaceChar {s : List Char} (h : '\r' ∉ s) :
    lines (replaceChar '\n' ['\r', '\n'] s) = lines s := by
  induction s using pieceInduction '\n' with
  | last s hs => rw [replaceChar_of_notMem hs]
  | cons l s hl ih =>
    obtain ⟨hl', hs'⟩ := not_or.mp (mt List.mem_append.mpr h)
    have hsplit : replaceChar '\n' ['\r', '\n'] (l ++ '\n' :: s) =
        (l ++ ['\r']) ++ '\n' :: replaceChar '\n' ['\r', '\n'] s := by
      rw [replaceChar_append, replaceChar_of_notMem hl, List.append_assoc]
      rfl
    rw [hsplit, lines_append (by simpa using hl), lines_append hl, dropCarriageReturn_append,
      dropCarriageReturn_of_notMem hl', ih fun hs => hs' (List.mem_cons_of_mem _ hs)]

theorem isBlankText_replaceChar (s : List Char) :
    isBlankText (replaceChar '\n' ['\r', '\n'] s) = isBlankText s := by
  rw [isBlankText, replaceChar, List.all_flatMap]
  refine List.all_congr rfl fun c => ?_
  by_cases hc : c = '\n'
  · rw [if_pos hc, hc]
    rfl
  · rw [if_neg hc, List.all_cons, List.all_nil, Bool.and_true]

/-! ### Trimming the end -/

theorem trimEnd_eq_nil_iff {s : List Char} : trimEnd s = [] ↔ isBlankText s := by
  rw [trimEnd, dropEndWhile_eq_nil_iff, isBlankText, List.all_eq_true]

theorem trimEnd_append_of_isBlankText {s ending : List Char} (h : isBlankText ending) :
    trimEnd (s ++ ending) = trimEnd s :=
  dropEndWhile_append (List.all_eq_true.mp h) s

/-- What has visible text is trimmed at its end in the same way after something else. -/
theorem trimEnd_append_of_not_isBlankText {s : List Char} (h : ¬isBlankText s)
    (start : List Char) : trimEnd (start ++ s) = start ++ trimEnd s := by
  induction start with
  | nil => rfl
  | cons c start ih =>
    rw [List.cons_append, trimEnd, dropEndWhile, ← trimEnd, ih]
    cases htrim : start ++ trimEnd s with
    | nil => exact absurd (trimEnd_eq_nil_iff.mp (List.append_eq_nil_iff.mp htrim).2) h
    | cons b r => rw [List.cons_append, htrim]

/-- What stands before two texts does not make their ends differ. -/
theorem trimEnd_append_congr {s t : List Char} (h : trimEnd s = trimEnd t) (start : List Char) :
    trimEnd (start ++ s) = trimEnd (start ++ t) := by
  induction start with
  | nil => exact h
  | cons c start ih =>
    rw [trimEnd, trimEnd] at ih ⊢
    rw [List.cons_append, List.cons_append, dropEndWhile, dropEndWhile, ih]

theorem trimEnd_dropCarriageReturn (s : List Char) :
    trimEnd (dropCarriageReturn s) = trimEnd s := by
  rcases dropCarriageReturn_eq_or s with h | h
  · rw [h]
  · rw [h, trimEnd_append_of_isBlankText (by decide), ← h]

theorem trim_dropCarriageReturn (s : List Char) : trim (dropCarriageReturn s) = trim s :=
  trim_eq_of_trimEnd_eq (trimEnd_dropCarriageReturn s)

/-! ### Blanks after the last line -/

/-- Lines that differ from others in blanks at the end of the last one, and in blank lines after
it. -/
inductive BlankExtension : List (List Char) → List (List Char) → Prop
  | blank {more : List (List Char)} : (∀ l ∈ more, isBlankText l) → BlankExtension [] more
  | last {l l' : List Char} {more : List (List Char)} : trimEnd l' = trimEnd l →
      (∀ b ∈ more, isBlankText b) → BlankExtension [l] (l' :: more)
  | cons (l : List Char) {ls ls' : List (List Char)} : BlankExtension ls ls' →
      BlankExtension (l :: ls) (l :: ls')

theorem BlankExtension.refl (ls : List (List Char)) : BlankExtension ls ls := by
  induction ls with
  | nil => exact .blank (List.forall_mem_nil _)
  | cons l ls ih => exact .cons l ih

theorem isBlankText_of_mem_lines {s l : List Char} (h : isBlankText s) (hl : l ∈ lines s) :
    isBlankText l :=
  List.all_eq_true.mpr fun c hc => List.all_eq_true.mp h c (subset_of_mem_lines hl hc)

theorem isBlankText_of_mem_unlines {ls : List (List Char)} {l : List Char}
    (h : isBlankText (unlines ls)) (hl : l ∈ ls) : isBlankText l :=
  List.all_eq_true.mpr fun c hc => List.all_eq_true.mp h c (mem_joinWith_of_mem hc hl)

/-- Blanks at the end of a text extend its lines. -/
theorem blankExtension_lines (s : List Char) {ending : List Char} (h : isBlankText ending) :
    BlankExtension (lines s) (lines (s ++ ending)) := by
  induction s using pieceInduction '\n' with
  | cons l s hl ih =>
    rw [List.append_assoc, List.cons_append, lines_append hl, lines_append hl]
    exact .cons _ ih
  | last s hs =>
    rw [lines_of_notMem hs]
    split
    · rename_i hempty
      rw [List.isEmpty_iff.mp hempty, List.nil_append]
      exact .blank fun l hl => isBlankText_of_mem_lines h hl
    · rename_i hne
      by_cases hmem : '\n' ∈ ending
      -- The last line ends in the blanks, and the rest of them is blank lines.
      · obtain ⟨start, rest, rfl, hstart⟩ := List.eq_append_cons_of_mem hmem
        rw [isBlankText, List.all_append, Bool.and_eq_true, List.all_cons, Bool.and_eq_true] at h
        rw [← List.append_assoc, lines_append (by simp [hs, hstart])]
        refine .last ?_ fun l hl => isBlankText_of_mem_lines h.2.2 hl
        rw [trimEnd_dropCarriageReturn, trimEnd_append_of_isBlankText h.1]
      · rw [lines_of_notMem (by simp [hs, hmem]), if_neg (by simp_all)]
        exact .last (trimEnd_append_of_isBlankText h) (List.forall_mem_nil _)

namespace BlankExtension

variable {ls ls' : List (List Char)}

theorem tail (h : BlankExtension ls ls') : BlankExtension ls.tail ls'.tail := by
  cases h with
  | blank hmore => exact .blank fun l hl => hmore l (List.mem_of_mem_tail hl)
  | last _ hmore => exact .blank hmore
  | cons l h => exact h

/-- First lines differ in blanks at their ends only. -/
theorem trimEnd_headD (h : BlankExtension ls ls') :
    trimEnd (ls'.headD []) = trimEnd (ls.headD []) := by
  cases h with
  | cons l h => rfl
  | last heq _ => exact heq
  | blank hmore =>
    cases ls' with
    | nil => rfl
    | cons l more => exact trimEnd_eq_nil_iff.mpr (hmore l List.mem_cons_self)

theorem isBlankText_headD (h : BlankExtension ls ls') :
    isBlankText (ls'.headD []) = isBlankText (ls.headD []) := by
  rw [Bool.eq_iff_iff, ← trimEnd_eq_nil_iff, ← trimEnd_eq_nil_iff, h.trimEnd_headD]

/-- Blank lines at the start can be left out. -/
theorem dropWhile (h : BlankExtension ls ls') :
    BlankExtension (ls.dropWhile isBlankText) (ls'.dropWhile isBlankText) := by
  induction h with
  | blank hmore =>
    rw [List.dropWhile_eq_nil_iff.mpr hmore]
    exact .refl []
  | @last l l' more heq hmore =>
    have hiff : isBlankText l' = isBlankText l := (BlankExtension.last heq hmore).isBlankText_headD
    cases hl : isBlankText l with
    | true =>
      rw [List.dropWhile_cons_of_pos hl, List.dropWhile_cons_of_pos (hiff.trans hl),
        List.dropWhile_eq_nil_iff.mpr hmore]
      exact .refl []
    | false =>
      rw [List.dropWhile_cons_of_neg (by simp [hl]),
        List.dropWhile_cons_of_neg (by simp [hiff, hl])]
      exact .last heq hmore
  | @cons l ls ls' h ih =>
    cases hl : isBlankText l with
    | true => rwa [List.dropWhile_cons_of_pos hl, List.dropWhile_cons_of_pos hl]
    | false =>
      rw [List.dropWhile_cons_of_neg (by simp [hl]), List.dropWhile_cons_of_neg (by simp [hl])]
      exact .cons l h

theorem isBlankText_unlines (h : ∀ l ∈ ls, isBlankText l) : isBlankText (unlines ls) := by
  refine List.all_eq_true.mpr fun c hc => ?_
  rcases mem_joinWith hc with hfeed | ⟨l, hl, hc⟩
  · rw [List.mem_singleton.mp hfeed]
    rfl
  · exact List.all_eq_true.mp (h l hl) c hc

/-- The lines after a first one add blanks only, if they are blank. -/
theorem trimEnd_unlines_cons (l : List Char) (h : ∀ b ∈ ls, isBlankText b) :
    trimEnd (unlines (l :: ls)) = trimEnd l := by
  cases ls with
  | nil => rfl
  | cons b ls =>
    have hblank : isBlankText (unlines ([] :: b :: ls)) :=
      isBlankText_unlines (List.forall_mem_cons.mpr ⟨rfl, h⟩)
    rw [unlines, joinWith, List.append_assoc]
    exact trimEnd_append_of_isBlankText hblank

/-- Joined and trimmed at the end, the lines are the same. -/
theorem trimEnd_unlines (h : BlankExtension ls ls') :
    trimEnd (unlines ls') = trimEnd (unlines ls) := by
  induction h with
  | blank hmore => exact trimEnd_eq_nil_iff.mpr (isBlankText_unlines hmore)
  | last heq hmore => exact (trimEnd_unlines_cons _ hmore).trans heq
  | @cons l ls ls' h ih =>
    cases ls with
    | nil =>
      cases h with
      | blank hmore => exact trimEnd_unlines_cons l hmore
    | cons b ls =>
      have hne : ∃ b' more, ls' = b' :: more := by cases h <;> exact ⟨_, _, rfl⟩
      obtain ⟨b', more, rfl⟩ := hne
      exact trimEnd_append_congr ih (l ++ ['\n'])

end BlankExtension

end CommitLint.Text
