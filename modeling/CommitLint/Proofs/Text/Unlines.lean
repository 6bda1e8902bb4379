import CommitLint.Proofs.Text.LineEnd

/-!
# Lines that are joined are lines again

Joining lines and cutting the text into lines gives them back (`lines_unlines`), provided that none
of them takes part of a line end with it: a line feed anywhere, or a carriage return right before
the line feed that joins it to the next (`IsWhole`). Most lines of a text are like that. Only
where the text has two carriage returns before a line feed is one of them left at the end of a line
(`isWhole_of_mem_dropLast_lines`).

If the end of the joined text is trimmed, blank lines at the end go, and so do blanks at the end of
the last of the others. Nothing else changes: the lines are those of the trimmed text, but for
blanks after the last one and blank lines below (`exists_addsBlanks`).
-/

namespace CommitLint.Text

/-! ### The end of a text -/

theorem trimEnd_trimEnd (s : List Char) : trimEnd (trimEnd s) = trimEnd s := by
  obtain ⟨ending, heq, hending⟩ := exists_eq_dropEndWhile_append isBlank s
  calc trimEnd (trimEnd s)
      = trimEnd (trimEnd s ++ ending) :=
        (trimEnd_append_of_isBlankText (List.all_eq_true.mpr hending)).symm
    _ = trimEnd s := congrArg trimEnd heq.symm

theorem isBlankText_trimEnd (s : List Char) : isBlankText (trimEnd s) = isBlankText s := by
  rw [Bool.eq_iff_iff, ← trimEnd_eq_nil_iff, trimEnd_trimEnd, trimEnd_eq_nil_iff]

/-- What is left does not end in a blank. -/
theorem isBlank_getLast?_trimEnd {s : List Char} :
    ∀ c ∈ (trimEnd s).getLast?, isBlank c = false := by
  intro c hc
  obtain ⟨t, ht⟩ := List.getLast?_eq_some_iff.mp hc
  exact eq_false_of_dropEndWhile_eq ht

/-! ### Lines without a part of a line end -/

/-- A line that can be joined to others and stays what it is. -/
def IsWhole (line : List Char) : Prop := '\n' ∉ line ∧ dropCarriageReturn line = line

/-- Only a carriage return at the end is dropped. -/
theorem dropCarriageReturn_eq_self_iff {s : List Char} :
    dropCarriageReturn s = s ↔ ∀ t, s ≠ t ++ ['\r'] := by
  constructor
  · rintro h t rfl
    rw [dropCarriageReturn_append] at h
    simpa using congrArg List.length h
  · exact fun h => (dropCarriageReturn_eq_or s).resolve_right (h _)

theorem isWhole_trimEnd {line : List Char} (h : '\n' ∉ line) : IsWhole (trimEnd line) := by
  refine ⟨fun hmem => h (trimEnd_subset line hmem), dropCarriageReturn_eq_self_iff.mpr ?_⟩
  intro t ht
  have hreturn : isBlank '\r' = false := eq_false_of_dropEndWhile_eq ht
  exact absurd hreturn (by decide)

/-- What a text has before its first line feed, without a carriage return. -/
theorem isWhole_dropCarriageReturn {l rest : List Char} (hl : '\n' ∉ l)
    (h : ¬"\r\r\n".toList <:+: l ++ '\n' :: rest) : IsWhole (dropCarriageReturn l) := by
  refine ⟨fun hmem => hl (dropCarriageReturn_subset l hmem),
    dropCarriageReturn_eq_self_iff.mpr fun t ht => ?_⟩
  rcases dropCarriageReturn_eq_or l with heq | heq
  -- A carriage return that ends the line would have been dropped.
  · rw [heq] at ht
    rw [ht, dropCarriageReturn_append] at heq
    simpa using congrArg List.length heq
  · refine h ⟨t, rest, ?_⟩
    rw [heq, ht]
    simp

/-- All lines but the last are whole, unless two carriage returns stand before a line feed. -/
theorem isWhole_of_mem_dropLast_lines {s l : List Char} (h : ¬"\r\r\n".toList <:+: s)
    (hl : l ∈ (lines s).dropLast) : IsWhole l := by
  induction s using pieceInduction '\n' with
  | last s hs =>
    rw [lines_of_notMem hs] at hl
    split at hl <;> exact absurd hl List.not_mem_nil
  | cons p s hp ih =>
    have hs : ¬"\r\r\n".toList <:+: s := fun hwithin =>
      h (hwithin.trans ((List.suffix_cons '\n' s).trans (List.suffix_append p _)).isInfix)
    rw [lines_append hp] at hl
    cases hlines : lines s with
    | nil =>
      rw [hlines] at hl
      exact absurd hl List.not_mem_nil
    | cons q qs =>
      rw [hlines, List.dropLast_cons_cons, ← hlines] at hl
      rcases List.mem_cons.mp hl with rfl | hl
      · exact isWhole_dropCarriageReturn hp h
      · exact ih hs hl

/-! ### Joining and cutting -/

/-- The last line needs no line feed after it, so it may even end with a carriage return. -/
theorem lines_unlines {ls : List (List Char)} {last : List Char} (h : ∀ l ∈ ls, IsWhole l)
    (hlast : '\n' ∉ last) (hne : last ≠ []) :
    lines (unlines (ls ++ [last])) = ls ++ [last] := by
  induction ls with
  | nil =>
    rw [List.nil_append, unlines, joinWith, lines_of_notMem hlast, if_neg (by simpa using hne)]
  | cons l ls ih =>
    obtain ⟨⟨hfeed, hreturn⟩, hls⟩ := List.forall_mem_cons.mp h
    rw [List.cons_append, unlines, joinWith_cons (by simp), List.append_assoc,
      List.singleton_append, lines_append hfeed, hreturn, ← unlines, ih hls]

/-! ### Blanks below -/

/-- Lines are blank, or there is a last one with visible text. -/
theorem forall_isBlankText_or_exists_last (ls : List (List Char)) :
    (∀ l ∈ ls, isBlankText l) ∨ ∃ above last below, ls = above ++ last :: below ∧
      ¬isBlankText last ∧ ∀ l ∈ below, isBlankText l := by
  obtain ⟨below, heq, hbelow⟩ := exists_eq_dropEndWhile_append (isBlankText ·) ls
  rcases List.eq_nil_or_concat (dropEndWhile (isBlankText ·) ls) with hnil | ⟨above, last, hlast⟩
  · exact .inl (dropEndWhile_eq_nil_iff.mp hnil)
  · rw [List.concat_eq_append] at hlast
    have hvisible : isBlankText last = false := eq_false_of_dropEndWhile_eq hlast
    refine .inr ⟨above, last, below, ?_, by simp [hvisible], hbelow⟩
    rw [heq, hlast, List.append_assoc, List.singleton_append]

/-- Trimming the end of joined lines takes the blank lines at the end away, and the blanks at the
end of the line before them. -/
theorem trimEnd_unlines_eq {above below : List (List Char)} {last : List Char}
    (hlast : ¬isBlankText last) (hbelow : ∀ l ∈ below, isBlankText l) :
    trimEnd (unlines (above ++ last :: below)) = unlines (above ++ [trimEnd last]) := by
  induction above with
  | nil => exact BlankExtension.trimEnd_unlines_cons last hbelow
  | cons l above ih =>
    have hvisible : ¬isBlankText (unlines (above ++ last :: below)) := fun hblank =>
      hlast (isBlankText_of_mem_unlines hblank (by simp))
    rw [List.cons_append, List.cons_append, unlines, unlines, joinWith_cons (by simp),
      joinWith_cons (by simp), ← unlines, ← unlines, trimEnd_append_of_not_isBlankText hvisible, ih]

/-- Lines that are others with some blanks after the last one. -/
inductive AddsBlanks : List (List Char) → List (List Char) → Prop
  | none : AddsBlanks [] []
  | last (above : List (List Char)) (last : List Char) {ending : List Char} :
      isBlankText ending → AddsBlanks (above ++ [last]) (above ++ [last ++ ending])

/-- Blanks at the end do not make a first line visible. -/
theorem AddsBlanks.isBlankText_head? {ls ls' : List (List Char)} (h : AddsBlanks ls ls')
    (hvisible : ∀ l ∈ ls'.head?, ¬isBlankText l) : ∀ l ∈ ls.head?, ¬isBlankText l := by
  cases h with
  | none => exact hvisible
  | @last above last ending hending =>
    cases above with
    | nil =>
      intro l hl
      obtain rfl : last = l := Option.some.inj hl
      have hlast : ¬isBlankText (last ++ ending) := hvisible _ rfl
      rwa [isBlankText, List.all_append, ← isBlankText, ← isBlankText, hending,
        Bool.and_true] at hlast
    | cons first above => exact hvisible

/-- Lines that are joined and trimmed at the end are the same but for blanks below, and the text has
just the lines that it is joined from. -/
theorem exists_addsBlanks {ls : List (List Char)} (hfeed : ∀ l ∈ ls, '\n' ∉ l)
    (hwhole : ∀ l ∈ ls.dropLast, IsWhole l) :
    ∃ shown below, ls = shown ++ below ∧ (∀ l ∈ below, isBlankText l) ∧
      AddsBlanks (lines (trimEnd (unlines ls))) shown ∧
      unlines (lines (trimEnd (unlines ls))) = trimEnd (unlines ls) := by
  rcases forall_isBlankText_or_exists_last ls with hblank | ⟨above, last, below, rfl, hlast, hbelow⟩
  · have hnil : trimEnd (unlines ls) = [] :=
      trimEnd_eq_nil_iff.mpr (BlankExtension.isBlankText_unlines hblank)
    rw [hnil]
    exact ⟨[], ls, rfl, hblank, .none, rfl⟩
  · obtain ⟨ending, heq, hending⟩ := exists_eq_dropEndWhile_append isBlank last
    rw [← trimEnd] at heq
    have hlines : lines (unlines (above ++ [trimEnd last])) = above ++ [trimEnd last] := by
      refine lines_unlines (fun l hl => hwhole l ?_) (fun hmem => ?_) ?_
      · rw [List.dropLast_append_of_ne_nil (List.cons_ne_nil last below)]
        exact List.mem_append_left _ hl
      · exact hfeed last (by simp) (trimEnd_subset last hmem)
      · exact mt trimEnd_eq_nil_iff.mp hlast
    rw [trimEnd_unlines_eq hlast hbelow, hlines]
    refine ⟨above ++ [trimEnd last ++ ending], below, ?_, hbelow,
      .last above (trimEnd last) (List.all_eq_true.mpr hending), rfl⟩
    rw [← heq, List.append_assoc, List.singleton_append]

/-- Lines without blanks at their ends have no blanks added to them. -/
theorem AddsBlanks.eq_of_trimEnd_eq {ls ls' : List (List Char)} (h : AddsBlanks ls ls')
    (htrim : ∀ l ∈ ls', trimEnd l = l) : ls = ls' := by
  cases h with
  | none => rfl
  | @last above last ending hending =>
    have heq : trimEnd last = last ++ ending :=
      (trimEnd_append_of_isBlankText hending).symm.trans (htrim _ (by simp))
    have hlength : (trimEnd last).length ≤ last.length :=
      (dropEndWhile_isPrefix isBlank last).length_le
    rw [heq, List.length_append] at hlength
    rw [List.eq_nil_of_length_eq_zero (l := ending) (by omega), List.append_nil]

/-- If no line ends in blanks, trimming the joined lines takes away blank lines only. -/
theorem exists_lines_trimEnd_unlines {ls : List (List Char)}
    (h : ∀ l ∈ ls, '\n' ∉ l ∧ trimEnd l = l) :
    ∃ below, ls = lines (trimEnd (unlines ls)) ++ below ∧ (∀ l ∈ below, isBlankText l) ∧
      unlines (lines (trimEnd (unlines ls))) = trimEnd (unlines ls) := by
  have hwhole : ∀ l ∈ ls, IsWhole l := fun l hl => (h l hl).2 ▸ isWhole_trimEnd (h l hl).1
  obtain ⟨shown, below, heq, hbelow, hshown, hjoin⟩ := exists_addsBlanks
    (fun l hl => (h l hl).1) fun l hl => hwhole l (List.dropLast_subset ls hl)
  refine ⟨below, ?_, hbelow, hjoin⟩
  rw [hshown.eq_of_trimEnd_eq fun l hl => (h l (heq ▸ List.mem_append_left below hl)).2]
  exact heq

end CommitLint.Text
