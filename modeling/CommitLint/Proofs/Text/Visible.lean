import CommitLint.Proofs.Text.LineEnd

/-!
# What trimming a whole text keeps

Blanks at either end of a text may be whole lines, or the ends of its first and its last line. So
trimming changes the lines, but not the visible ones, blanks around each of them aside
(`visibleLines_trim`). Joining lines to a text keeps those, too (`visibleLines_unlines`). Nor does
trimming change whether a text without blanks occurs (`infix_trim_iff`).
-/

namespace CommitLint.Text

/-- The lines with visible text, from some lines, each without blanks at either end. -/
def visibleOf (ls : List (List Char)) : List (List Char) := (ls.map trim).filter (· != [])

/-- The lines of a text with visible text, each without blanks at either end. -/
def visibleLines (s : List Char) : List (List Char) := visibleOf (lines s)

theorem visibleOf_append (ls ls' : List (List Char)) :
    visibleOf (ls ++ ls') = visibleOf ls ++ visibleOf ls' := by
  rw [visibleOf, List.map_append, List.filter_append, visibleOf, visibleOf]

theorem visibleOf_cons (l : List Char) (ls : List (List Char)) :
    visibleOf (l :: ls) = visibleOf [l] ++ visibleOf ls := visibleOf_append [l] ls

theorem visibleOf_singleton_congr {l l' : List Char} (h : trim l = trim l') :
    visibleOf [l] = visibleOf [l'] := by
  rw [visibleOf, visibleOf, List.map_singleton, List.map_singleton, h]

theorem visibleOf_eq_nil {ls : List (List Char)} (h : ∀ l ∈ ls, isBlankText l) :
    visibleOf ls = [] := by
  refine List.filter_eq_nil_iff.mpr fun t ht => ?_
  obtain ⟨l, hl, rfl⟩ := List.mem_map.mp ht
  simp [trim_eq_nil_iff.mpr (h l hl)]

/-- Blank lines at the start are not seen. -/
theorem visibleOf_dropWhile (ls : List (List Char)) :
    visibleOf (ls.dropWhile isBlankText) = visibleOf ls := by
  have hblank : visibleOf (ls.takeWhile isBlankText) = [] :=
    visibleOf_eq_nil fun l hl => List.mem_takeWhile_imp hl
  calc visibleOf (ls.dropWhile isBlankText)
      = visibleOf (ls.takeWhile isBlankText ++ ls.dropWhile isBlankText) := by
        rw [visibleOf_append, hblank, List.nil_append]
    _ = visibleOf ls := by rw [List.takeWhile_append_dropWhile]

theorem mem_visibleOf {ls : List (List Char)} {t : List Char} :
    t ∈ visibleOf ls ↔ ∃ l ∈ ls, ¬isBlankText l ∧ t = trim l := by
  simp only [visibleOf, List.mem_filter, List.mem_map, bne_iff_ne, ne_eq]
  constructor
  · rintro ⟨⟨l, hl, rfl⟩, hne⟩
    exact ⟨l, hl, fun hblank => hne (trim_eq_nil_iff.mpr hblank), rfl⟩
  · rintro ⟨l, hl, hvisible, rfl⟩
    exact ⟨⟨l, hl, rfl⟩, fun hnil => hvisible (trim_eq_nil_iff.mp hnil)⟩

theorem BlankExtension.visibleOf_eq {ls ls' : List (List Char)} (h : BlankExtension ls ls') :
    visibleOf ls' = visibleOf ls := by
  induction h with
  | blank hmore => exact visibleOf_eq_nil hmore
  | last heq hmore =>
    rw [visibleOf_cons, visibleOf_eq_nil hmore, List.append_nil,
      visibleOf_singleton_congr (trim_eq_of_trimEnd_eq heq)]
  | cons l _ ih => rw [visibleOf_cons, ih, ← visibleOf_cons]

theorem visibleLines_append {s ending : List Char} (h : isBlankText ending) :
    visibleLines (s ++ ending) = visibleLines s :=
  (blankExtension_lines s h).visibleOf_eq

theorem visibleLines_trimEnd (s : List Char) : visibleLines (trimEnd s) = visibleLines s := by
  obtain ⟨ending, heq, hending⟩ := exists_eq_dropEndWhile_append isBlank s
  calc visibleLines (trimEnd s)
      = visibleLines (trimEnd s ++ ending) :=
        (visibleLines_append (List.all_eq_true.mpr hending)).symm
    _ = visibleLines s := congrArg visibleLines heq.symm

/-- Lines that are joined are seen as before. -/
theorem visibleLines_unlines {ls : List (List Char)} (h : ∀ l ∈ ls, '\n' ∉ l) :
    visibleLines (unlines ls) = visibleOf ls := by
  induction ls with
  | nil => rfl
  | cons l ls ih =>
    obtain ⟨hl, hls⟩ := List.forall_mem_cons.mp h
    cases ls with
    | nil =>
      rw [visibleLines, unlines, joinWith, lines_of_notMem hl]
      split
      · rename_i hempty
        rw [List.isEmpty_iff.mp hempty]
        rfl
      · rfl
    | cons m ls =>
      rw [visibleLines, unlines, joinWith, List.append_assoc, List.singleton_append,
        lines_append hl, visibleOf_cons, visibleOf_cons l]
      rw [visibleLines, unlines] at ih
      rw [ih hls, visibleOf_singleton_congr (trim_dropCarriageReturn l)]

theorem visibleLines_cons {c : Char} (hc : isBlank c) (s : List Char) :
    visibleLines (c :: s) = visibleLines s := by
  by_cases hfeed : c = '\n'
  · have hlines : lines (c :: s) = [] :: lines s := by
      rw [hfeed]
      exact lines_append List.not_mem_nil s
    rw [visibleLines, hlines, visibleOf_cons]
    rfl
  · induction s using pieceInduction '\n' with
    | last s hs =>
      rw [visibleLines, visibleLines, lines_of_notMem hs,
        lines_of_notMem (by simp [hs, Ne.symm hfeed]), if_neg (by simp)]
      split
      · rename_i hempty
        rw [List.isEmpty_iff.mp hempty]
        exact visibleOf_eq_nil (by simp [isBlankText, hc])
      · exact visibleOf_singleton_congr (trim_cons_of_isBlank hc s)
    | cons l s hl _ =>
      have hcl : '\n' ∉ c :: l := by simp [hl, Ne.symm hfeed]
      rw [← List.cons_append, visibleLines, visibleLines, lines_append hcl, lines_append hl,
        visibleOf_cons, visibleOf_cons (dropCarriageReturn l)]
      refine congrArg (· ++ _) (visibleOf_singleton_congr ?_)
      calc trim (dropCarriageReturn (c :: l))
          = trim (c :: l) := trim_dropCarriageReturn _
        _ = trim l := trim_cons_of_isBlank hc l
        _ = trim (dropCarriageReturn l) := (trim_dropCarriageReturn l).symm

theorem visibleLines_trim (s : List Char) : visibleLines (trim s) = visibleLines s := by
  obtain ⟨start, ending, heq, hstart, hending⟩ := exists_eq_append_trim_append s
  have hprepend : ∀ start : List Char, isBlankText start →
      visibleLines (start ++ trim s) = visibleLines (trim s) := by
    intro start hstart
    induction start with
    | nil => rfl
    | cons c start ih =>
      rw [isBlankText, List.all_cons, Bool.and_eq_true] at hstart
      rw [List.cons_append, visibleLines_cons hstart.1, ih hstart.2]
  calc visibleLines (trim s)
      = visibleLines (start ++ trim s) := (hprepend start hstart).symm
    _ = visibleLines (start ++ trim s ++ ending) := (visibleLines_append hending).symm
    _ = visibleLines s := congrArg visibleLines heq.symm

/-- A text without blanks occurs in the trimmed text wherever it occurs. -/
theorem infix_trim_iff {w : List Char} (hne : w ≠ []) (hplain : w.any isBlank = false)
    {s : List Char} : w <:+: trim s ↔ w <:+: s := by
  have hw : ∀ c ∈ w, isBlank c = false := by simpa using hplain
  obtain ⟨start, ending, heq, hstart, hending⟩ := exists_eq_append_trim_append s
  have hblank : ∀ {t : List Char}, isBlankText t → ¬w <:+: t := by
    intro t ht hoccurs
    obtain ⟨c, hc⟩ := List.exists_mem_of_ne_nil w hne
    exact not_isBlankText_of_mem (hw c hc) (hoccurs.subset hc) ht
  have hnotMem : ∀ {c : Char}, isBlank c → c ∉ w := fun hc hmem => by simp [hw _ hmem] at hc
  refine ⟨fun h => h.trans ⟨start, ending, heq.symm⟩, fun h => ?_⟩
  rw [heq] at h
  have hfront : w <:+: start ++ trim s := by
    cases ending with
    | nil => rwa [List.append_nil] at h
    | cons c ending =>
      rw [isBlankText, List.all_cons, Bool.and_eq_true] at hending
      exact (infix_append_cons (hnotMem hending.1) h).resolve_right (hblank hending.2)
  obtain rfl | ⟨start, c, rfl⟩ := List.eq_nil_or_concat start
  · exact hfront
  · rw [List.concat_eq_append, isBlankText, List.all_append, Bool.and_eq_true] at hstart
    rw [List.concat_eq_append, List.append_assoc, List.singleton_append] at hfront
    exact (infix_append_cons (hnotMem (by simpa using hstart.2)) hfront).resolve_left
      (hblank hstart.1)

end CommitLint.Text
