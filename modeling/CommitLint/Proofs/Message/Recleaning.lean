import CommitLint.Proofs.Message.Cleaning
import CommitLint.Proofs.Text.Unlines

/-!
# Cleaning a message twice

A cleaned message has no comments among its lines, with one exception. A line that begins with
blanks and a hash is no comment, so it is kept; but if it is the first line with visible text, the
blanks in front of it are at the beginning of the message, and go when the message is trimmed. What
is left is a comment (`exists_lines_clean`), and the next cleaning drops it. In every other case
cleaning a cleaned message changes nothing (`clean_clean_iff`).

That it changes nothing is due to the lines: they are whole and trimmed, so cleaning gives them back
one by one (`cleanLines_eq_self`). That a comment makes a difference is due to the length: a line
that is dropped does not come back.
-/

namespace CommitLint.Message

open Text

/-! ### Trimming the first line -/

/-- The ends of a text can be trimmed in any order. -/
theorem trimStart_trimEnd (s : List Char) : trimStart (trimEnd s) = trim s := by
  obtain ⟨start, ending, heq, hstart, hending⟩ := exists_eq_append_trim_append s
  have hhead : trimStart (trim s) = trim s := by
    obtain ⟨-, -, -, -, -, hvisible, -⟩ := trimsTo_trimBoth isBlank s
    cases htrim : trim s with
    | nil => rfl
    | cons c t =>
      exact List.dropWhile_cons_of_neg (by simp [hvisible c (by rw [← trim, htrim]; rfl)])
  by_cases hblank : isBlankText (trim s)
  · have hs : isBlankText s :=
      trim_eq_nil_iff.mp ((trim_trim s).symm.trans (trim_eq_nil_iff.mpr hblank))
    rw [trimEnd_eq_nil_iff.mpr hs, trim_eq_nil_iff.mpr hs]
    rfl
  · have hend : trimEnd s = start ++ trim s := by
      calc trimEnd s
          = trimEnd (start ++ trim s ++ ending) := congrArg trimEnd heq
        _ = trimEnd (start ++ trim s) := trimEnd_append_of_isBlankText hending
        _ = start ++ trimEnd (trim s) := trimEnd_append_of_not_isBlankText hblank start
        _ = start ++ trim s := congrArg (start ++ ·) (trimEnd_trimEnd (trimStart s))
    rw [hend, trimStart, List.dropWhile_append_of_pos (List.all_eq_true.mp hstart), ← trimStart,
      hhead]

/-- Blank lines above do not matter. -/
theorem trim_unlines_append {above ls : List (List Char)} (h : ∀ l ∈ above, isBlankText l)
    (hne : ls ≠ []) : trim (unlines (above ++ ls)) = trim (unlines ls) := by
  cases above with
  | nil => rfl
  | cons l above =>
    have hblank : isBlankText (unlines (l :: above) ++ ['\n']) := by
      rw [isBlankText, List.all_append, ← isBlankText, BlankExtension.isBlankText_unlines h]
      rfl
    rw [unlines, joinWith_append (List.cons_ne_nil l above) hne]
    exact trim_append_of_isBlankText_left hblank _

/-- Trimming joined lines trims the beginning of the first one, if that is visible. -/
theorem trim_unlines_cons {first : List Char} (h : ¬isBlankText first) (ls : List (List Char)) :
    trim (unlines (first :: ls)) = trimEnd (unlines (trimStart first :: ls)) := by
  have hne : (first.dropWhile isBlank).isEmpty = false := by
    rw [Bool.eq_false_iff]
    intro hempty
    exact h (List.all_eq_true.mpr (List.dropWhile_eq_nil_iff.mp (List.isEmpty_iff.mp hempty)))
  cases ls with
  | nil => rfl
  | cons l ls =>
    rw [unlines, unlines, joinWith, joinWith, List.append_assoc, List.append_assoc, trim, trimBoth,
      List.dropWhile_append, if_neg (by simp [hne])]
    rfl

/-! ### The lines of a cleaned message -/

/-- The first line with visible text that is kept of a message file. -/
def firstVisible? (file : List Char) : Option (List Char) :=
  (keptLines file).find? (!isBlankText ·)

theorem not_isComment_of_mem_keptLines {file line : List Char} (h : line ∈ keptLines file) :
    ¬IsComment line := by
  rw [← isComment_iff]
  simpa using (List.mem_filter.mp h).2

theorem lineFeed_notMem_of_mem_keptLines {file line : List Char} (h : line ∈ keptLines file) :
    '\n' ∉ line :=
  lineFeed_notMem_of_mem_lines ((List.takeWhile_prefix _).subset (List.mem_filter.mp h).1)

/-- Without visible text there is no message. -/
theorem clean_eq_nil {file : List Char} (h : firstVisible? file = none) : clean file = [] := by
  have hkept : ∀ line ∈ keptLines file, isBlankText line := by
    simpa [firstVisible?, List.find?_eq_none] using h
  refine trim_eq_nil_iff.mpr (BlankExtension.isBlankText_unlines ?_)
  exact List.forall_mem_map.mpr fun line hline => by
    rw [isBlankText_trimEnd, hkept line hline]

/-- A cleaned message is joined from the first visible line without the blanks around it, and lines
that are no comments, like those of the file that they come from. -/
theorem exists_clean_eq {file line : List Char} (h : firstVisible? file = some line) :
    ∃ rest, clean file = trimEnd (unlines (trim line :: rest)) ∧ ¬isBlankText (trim line) ∧
      (∀ l ∈ trim line :: rest, '\n' ∉ l ∧ trimEnd l = l) ∧ ∀ l ∈ rest, ¬IsComment l := by
  obtain ⟨hvisible, above, rest, hkept, habove⟩ := List.find?_eq_some_iff_append.mp h
  have hvisible : ¬isBlankText line := by simpa using hvisible
  have hmem : ∀ l ∈ line :: rest, l ∈ keptLines file := fun l hl => by
    rw [hkept]
    exact List.mem_append_right above hl
  refine ⟨rest.map trimEnd, ?_, ?_, List.forall_mem_cons.mpr ⟨⟨?_, ?_⟩, ?_⟩, ?_⟩
  · have hblank : ∀ l ∈ above.map trimEnd, isBlankText l :=
      List.forall_mem_map.mpr fun l hl => by
        rw [isBlankText_trimEnd]
        simpa using habove l hl
    rw [clean, hkept, List.map_append, List.map_cons, trim_unlines_append hblank (by simp),
      trim_unlines_cons (by rwa [isBlankText_trimEnd]), trimStart_trimEnd]
  · rwa [← trim_eq_nil_iff, trim_trim, trim_eq_nil_iff]
  · obtain ⟨start, ending, heq, -⟩ := exists_eq_append_trim_append line
    have hfeed := lineFeed_notMem_of_mem_keptLines (hmem line List.mem_cons_self)
    rw [heq] at hfeed
    exact fun hc => hfeed (List.mem_append_left ending (List.mem_append_right start hc))
  · exact trimEnd_trimEnd (trimStart line)
  · refine List.forall_mem_map.mpr fun l hl => ⟨fun hc => ?_, trimEnd_trimEnd l⟩
    exact lineFeed_notMem_of_mem_keptLines (hmem l (List.mem_cons_of_mem line hl))
      (trimEnd_subset l hc)
  · refine List.forall_mem_map.mpr fun l hl hcomment => ?_
    exact not_isComment_of_mem_keptLines (hmem l (List.mem_cons_of_mem line hl))
      (hcomment.of_trimEnd_eq (trimEnd_trimEnd l).symm)

/-- The first line of a cleaned message has lost the blanks at its beginning. The others are no
comments. -/
theorem exists_lines_clean {file line : List Char} (h : firstVisible? file = some line) :
    ∃ below, lines (clean file) = trim line :: below ∧ unlines (lines (clean file)) = clean file ∧
      (∀ l ∈ lines (clean file), trimEnd l = l) ∧ ∀ l ∈ below, ¬IsComment l := by
  obtain ⟨rest, hclean, hvisible, htrimmed, hrest⟩ := exists_clean_eq h
  obtain ⟨blank, heq, hblank, hjoin⟩ := exists_lines_trimEnd_unlines htrimmed
  rw [← hclean] at heq hjoin
  cases hlines : lines (clean file) with
  | nil =>
    rw [hlines, List.nil_append] at heq
    exact absurd (hblank _ (heq ▸ List.mem_cons_self)) hvisible
  | cons first below =>
    rw [hlines, List.cons_append] at heq
    obtain ⟨rfl, hbelow⟩ := List.cons_eq_cons.mp heq
    refine ⟨below, rfl, hlines ▸ hjoin, fun l hl => (htrimmed l ?_).2, fun l hl => hrest l ?_⟩
    · rw [heq]
      exact List.mem_append_left blank hl
    · rw [hbelow]
      exact List.mem_append_left blank hl

/-! ### Cleaning again -/

/-- Lines that are kept as they are. -/
theorem cleanLines_eq_self {ls : List (List Char)} (htrimmed : ∀ l ∈ ls, trimEnd l = l)
    (hnot : ∀ l ∈ ls, ¬IsComment l) : cleanLines ls = ls := by
  induction ls with
  | nil => rfl
  | cons l ls ih =>
    obtain ⟨hl, hls⟩ := List.forall_mem_cons.mp htrimmed
    obtain ⟨hnotl, hnotls⟩ := List.forall_mem_cons.mp hnot
    rw [cleanLines_line hnotl, hl, ih hls hnotls]

/-- A comment at the beginning is lost for good. -/
theorem length_clean_lt {s line : List Char} {below : List (List Char)}
    (hlines : lines s = line :: below) (hjoin : unlines (lines s) = s) (hcomment : IsComment line)
    (htrimmed : ∀ l ∈ below, trimEnd l = l) (hbelow : ∀ l ∈ below, ¬IsComment l) :
    (clean s).length < s.length := by
  have hkept : (unlines (cleanLines (lines s))).length ≤ (unlines below).length := by
    rw [hlines]
    by_cases hscissors : line = scissors
    · rw [hscissors, cleanLines_scissors]
      exact Nat.zero_le _
    · rw [cleanLines_comment hcomment hscissors, cleanLines_eq_self htrimmed hbelow]
  have hshorter : (unlines below).length < s.length := by
    obtain ⟨rest, rfl⟩ := hcomment
    rw [← hjoin, hlines, unlines, unlines]
    cases below with
    | nil => exact Nat.zero_lt_succ _
    | cons l ls =>
      rw [joinWith_cons (List.cons_ne_nil l ls), List.length_append, List.length_append,
        List.length_cons]
      omega
  calc (clean s).length
      ≤ (unlines (cleanLines (lines s))).length := (trimBoth_isInfix isBlank _).length_le
    _ ≤ (unlines below).length := hkept
    _ < s.length := hshorter

/-- A stored message is read again as the same commit exactly if cleaning it again changes
nothing. -/
theorem ofMessageFile_message_iff (file : List Char) :
    Commit.ofMessageFile (Commit.ofMessageFile (.ofList file)).message =
        Commit.ofMessageFile (.ofList file) ↔ clean (clean file) = clean file := by
  simp only [Commit.ofMessageFile, String.toList_ofList, Commit.mk.injEq, and_true,
    String.ofList_inj]

/-- Cleaning a cleaned message changes nothing, and the stored message makes the same commit,
exactly if there are no comments among its lines. There is none below the first line, and the first
line is one exactly if it was an indented comment in the file: blanks and a hash. -/
theorem clean_clean_iff (file : List Char) :
    (Commit.ofMessageFile (Commit.ofMessageFile (.ofList file)).message =
        Commit.ofMessageFile (.ofList file) ↔ clean (clean file) = clean file) ∧
      (clean (clean file) = clean file ↔ ∀ l ∈ lines (clean file), ¬IsComment l) ∧
      ((∀ l ∈ lines (clean file), ¬IsComment l) ↔
        ∀ line ∈ firstVisible? file, ¬IsComment (trim line)) ∧
      ∀ l ∈ (lines (clean file)).tail, ¬IsComment l := by
  refine ⟨ofMessageFile_message_iff file, ?_⟩
  cases hfirst : firstVisible? file with
  | none =>
    have hlines : lines [] = [] := rfl
    rw [clean_eq_nil hfirst, hlines]
    refine ⟨iff_of_true rfl (List.forall_mem_nil _), iff_of_true (List.forall_mem_nil _) ?_,
      List.forall_mem_nil _⟩
    exact fun l hl => absurd hl (Option.not_mem_none l)
  | some line =>
    obtain ⟨below, hlines, hjoin, htrimmed, hbelow⟩ := exists_lines_clean hfirst
    have hfirstLine : (∀ l ∈ lines (clean file), ¬IsComment l) ↔ ¬IsComment (trim line) := by
      rw [hlines, List.forall_mem_cons]
      exact and_iff_left hbelow
    refine ⟨⟨fun hsame => ?_, fun hnot => ?_⟩, ?_, ?_⟩
    · rw [hfirstLine]
      intro hcomment
      have hbelowTrimmed : ∀ l ∈ below, trimEnd l = l := fun l hl =>
        htrimmed l (hlines ▸ List.mem_cons_of_mem _ hl)
      have hlt := length_clean_lt hlines hjoin hcomment hbelowTrimmed hbelow
      rw [hsame] at hlt
      exact absurd hlt (Nat.lt_irrefl _)
    · rw [clean_eq (clean file), cleanLines_eq_self htrimmed hnot, hjoin]
      exact trim_trim _
    · rw [hfirstLine]
      simp only [Option.mem_def, Option.some.injEq, forall_eq']
    · rw [hlines]
      exact hbelow

/-- A file with an indented comment below its first visible line, which is indented itself. -/
theorem clean_clean_iff_indented :
    let file : List Char := "\n  feat: a \r\n# New\n # b\r\n".toList
    lines (clean file) = ["feat: a".toList, " # b".toList] ∧ clean (clean file) = clean file ∧
      ¬IsComment " # b".toList := by
  intro file
  obtain ⟨-, hsame, -, htail⟩ := clean_clean_iff file
  have hlines : lines (clean file) = ["feat: a".toList, " # b".toList] := by decide
  refine ⟨hlines, hsame.mpr ?_, htail _ (by rw [hlines]; exact List.mem_cons_self)⟩
  rw [hlines]
  simp only [← isComment_iff]
  decide

/-- Cleaning is not idempotent: an indented comment in the first line becomes a comment. -/
theorem not_forall_clean_clean : ¬∀ file, clean (clean file) = clean file := by
  intro h
  have hsame := h " # a\n\nb".toList
  revert hsame
  decide

end CommitLint.Message
