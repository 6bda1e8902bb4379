import CommitLint.Commit
import CommitLint.Proofs.Text.Insertion
import Mathlib.Logic.Relation

/-!
# What is left of a message file

A message file is read line by line: a comment is skipped, the scissors end the reading, and any
other line is kept without the blanks at its end (`Keeps`). Nothing else reaches the message, so
what stands below the scissors has no influence, and neither have comments, wherever they are
written (`clean_noninterference`).

The lines of a text with something inserted into it are those of the text up to blanks at its end,
with the new ones in between. Both parts of this are harmless: blanks at the end stay at the end
when lines are dropped (`blankExtension_cleanLines`), and comments are dropped from between other
lines (`cleanLines_append_comments`).
-/

namespace CommitLint.Message

open Text

/-- A line is a comment: it starts with a hash. -/
def IsComment (line : List Char) : Prop := ∃ rest, line = '#' :: rest

/-- What is kept of the lines of a message file. -/
inductive Keeps : List (List Char) → List (List Char) → Prop
  | nil : Keeps [] []
  | scissors (below : List (List Char)) : Keeps (scissors :: below) []
  | comment {line : List Char} {below kept : List (List Char)} : IsComment line →
      line ≠ Message.scissors → Keeps below kept → Keeps (line :: below) kept
  | line {line : List Char} {below kept : List (List Char)} : ¬IsComment line →
      Keeps below kept → Keeps (line :: below) (trimEnd line :: kept)

theorem isComment_iff {line : List Char} : isComment line = true ↔ IsComment line := by
  cases line with
  | nil => exact iff_of_false (by decide) fun ⟨_, h⟩ => nomatch h
  | cons c rest => simp [isComment, IsComment]

theorem isComment_scissors : IsComment scissors := ⟨_, rfl⟩

/-! ### The lines that are kept -/

/-- The lines of a cleaned message, from the lines of the file. -/
def cleanLines (ls : List (List Char)) : List (List Char) :=
  ((ls.takeWhile (· != scissors)).filter (!isComment ·)).map trimEnd

theorem clean_eq (file : List Char) : clean file = trim (unlines (cleanLines (lines file))) := rfl

theorem cleanLines_scissors (below : List (List Char)) : cleanLines (scissors :: below) = [] := by
  rw [cleanLines, List.takeWhile_cons_of_neg (by simp)]
  rfl

section

variable {line : List Char} {below kept : List (List Char)}

theorem cleanLines_comment (h : IsComment line) (hne : line ≠ scissors) :
    cleanLines (line :: below) = cleanLines below := by
  rw [cleanLines, List.takeWhile_cons_of_pos (by simpa using hne),
    List.filter_cons_of_neg (by simp [isComment_iff.mpr h]), cleanLines]

theorem cleanLines_line (h : ¬IsComment line) :
    cleanLines (line :: below) = trimEnd line :: cleanLines below := by
  have hne : line ≠ scissors := fun heq => h (heq ▸ isComment_scissors)
  rw [cleanLines, List.takeWhile_cons_of_pos (by simpa using hne),
    List.filter_cons_of_pos (by simpa using mt isComment_iff.mp h), List.map_cons, cleanLines]

end

theorem keeps_cleanLines (ls : List (List Char)) : Keeps ls (cleanLines ls) := by
  induction ls with
  | nil => exact .nil
  | cons line below ih =>
    by_cases hscissors : line = scissors
    · rw [hscissors, cleanLines_scissors]
      exact .scissors below
    · by_cases hcomment : IsComment line
      · rw [cleanLines_comment hcomment hscissors]
        exact .comment hcomment hscissors ih
      · rw [cleanLines_line hcomment]
        exact .line hcomment ih

/-! ### Lines that have no influence -/

/-- Only what the lines after some others come to has an influence. -/
theorem cleanLines_append_congr {below below' : List (List Char)}
    (h : cleanLines below = cleanLines below') (above : List (List Char)) :
    cleanLines (above ++ below) = cleanLines (above ++ below') := by
  induction above with
  | nil => exact h
  | cons line above ih =>
    rw [List.cons_append, List.cons_append]
    by_cases hscissors : line = scissors
    · rw [hscissors, cleanLines_scissors, cleanLines_scissors]
    · by_cases hcomment : IsComment line
      · rw [cleanLines_comment hcomment hscissors, cleanLines_comment hcomment hscissors, ih]
      · rw [cleanLines_line hcomment, cleanLines_line hcomment, ih]

theorem cleanLines_append_scissors (above below : List (List Char)) :
    cleanLines (above ++ scissors :: below) = cleanLines above := by
  have hnone : cleanLines (scissors :: below) = cleanLines [] := cleanLines_scissors below
  rw [cleanLines_append_congr hnone, List.append_nil]

theorem cleanLines_append_comments {comments : List (List Char)}
    (h : ∀ line ∈ comments, IsComment line ∧ line ≠ scissors) (above below : List (List Char)) :
    cleanLines (above ++ comments ++ below) = cleanLines (above ++ below) := by
  rw [List.append_assoc]
  refine cleanLines_append_congr ?_ above
  induction comments with
  | nil => rfl
  | cons line comments ih =>
    obtain ⟨⟨hcomment, hne⟩, hcomments⟩ := List.forall_mem_cons.mp h
    rw [List.cons_append, cleanLines_comment hcomment hne, ih hcomments]

/-! ### Blanks at the end -/

/-- A line is a comment or not whatever blanks stand at its end. -/
theorem IsComment.of_trimEnd_eq {l l' : List Char} (hcomment : IsComment l)
    (h : trimEnd l' = trimEnd l) : IsComment l' := by
  obtain ⟨rest, rfl⟩ := hcomment
  obtain ⟨start, hstart⟩ : ∃ start, trimEnd ('#' :: rest) = '#' :: start := by
    rw [trimEnd, dropEndWhile]
    split
    · exact ⟨[], rfl⟩
    · exact ⟨_, rfl⟩
  obtain ⟨more, hmore⟩ := dropEndWhile_isPrefix isBlank l'
  rw [← trimEnd, h, hstart, List.cons_append] at hmore
  exact ⟨_, hmore.symm⟩

theorem isBlankText_of_mem_cleanLines {ls : List (List Char)} (h : ∀ l ∈ ls, isBlankText l) :
    ∀ l ∈ cleanLines ls, isBlankText l := by
  intro l hl
  obtain ⟨line, hline, rfl⟩ := List.mem_map.mp hl
  have hmem : line ∈ ls := (List.takeWhile_prefix _).subset (List.mem_filter.mp hline).1
  exact List.all_eq_true.mpr fun c hc =>
    List.all_eq_true.mp (h line hmem) c (trimEnd_subset line hc)

/-- Lines that are extended by blanks stay so when comments are dropped. -/
theorem blankExtension_cleanLines {ls ls' : List (List Char)} (h : BlankExtension ls ls') :
    BlankExtension (cleanLines ls) (cleanLines ls') := by
  induction h with
  | blank hmore => exact .blank (isBlankText_of_mem_cleanLines hmore)
  | @last l l' more heq hmore =>
    have hblank := isBlankText_of_mem_cleanLines hmore
    by_cases hcomment : IsComment l
    -- The line is dropped with its blanks or without: what is left of the others is blank.
    · have hnone : cleanLines [l] = [] := by
        by_cases hscissors : l = scissors
        · rw [hscissors, cleanLines_scissors]
        · exact cleanLines_comment hcomment hscissors
      rw [hnone]
      by_cases hscissors : l' = scissors
      · rw [hscissors, cleanLines_scissors]
        exact .refl []
      · rw [cleanLines_comment (hcomment.of_trimEnd_eq heq) hscissors]
        exact .blank hblank
    · have hcomment' : ¬IsComment l' := fun h => hcomment (h.of_trimEnd_eq heq.symm)
      rw [cleanLines_line hcomment, cleanLines_line hcomment', heq]
      exact .last rfl hblank
  | @cons l ls ls' h ih =>
    by_cases hscissors : l = scissors
    · rw [hscissors, cleanLines_scissors, cleanLines_scissors]
      exact .refl []
    · by_cases hcomment : IsComment l
      · rwa [cleanLines_comment hcomment hscissors, cleanLines_comment hcomment hscissors]
      · rw [cleanLines_line hcomment, cleanLines_line hcomment]
        exact .cons _ ih

theorem clean_eq_of_blankExtension {file file' : List Char} {ls : List (List Char)}
    (h : BlankExtension (lines file) ls) (heq : cleanLines (lines file') = cleanLines ls) :
    clean file' = clean file := by
  rw [clean_eq, clean_eq, heq]
  exact trim_eq_of_trimEnd_eq (blankExtension_cleanLines h).trimEnd_unlines

/-! ### Cleaned messages -/

theorem lines_append_scissors (file below : List Char) :
    lines (file ++ '\n' :: scissors ++ '\n' :: below) =
      lines (file ++ ['\n']) ++ scissors :: lines below := by
  have hfeed : '\n' ∉ scissors := by decide
  rw [List.append_assoc, List.cons_append, lines_append_cons, lines_append hfeed]
  rfl

theorem clean_append_scissors (file below : List Char) :
    clean (file ++ '\n' :: scissors ++ '\n' :: below) = clean file := by
  have hfeed : isBlankText ['\n'] := by decide
  refine clean_eq_of_blankExtension (blankExtension_lines file hfeed) ?_
  rw [lines_append_scissors, cleanLines_append_scissors]

theorem clean_of_insertsLines {comments file file' : List Char}
    (h : InsertsLines comments file file')
    (hcomments : ∀ line ∈ lines comments, IsComment line ∧ line ≠ scissors) :
    clean file' = clean file := by
  obtain ⟨above, below, hext, hlines⟩ := h.exists_lines
  refine clean_eq_of_blankExtension hext ?_
  rw [hlines, cleanLines_append_comments hcomments]

/-- A message file with more in it that is not meant for the message: comments among its lines, or
anything below scissors at its end. -/
inductive Annotates (file : List Char) : List Char → Prop
  | comments {comments file' : List Char} : InsertsLines comments file file' →
      (∀ line ∈ lines comments, IsComment line ∧ line ≠ scissors) → Annotates file file'
  | belowScissors (below : List Char) :
      Annotates file (file ++ '\n' :: scissors ++ '\n' :: below)

theorem Annotates.clean_eq {file file' : List Char} (h : Annotates file file') :
    clean file' = clean file := by
  cases h with
  | comments hinserts hcomments => exact clean_of_insertsLines hinserts hcomments
  | belowScissors below => exact clean_append_scissors file below

/-- A cleaned message is what is kept of the lines of its file, joined and without blanks at either
end. Neither comments nor what stands below the scissors has an influence: however often a file is
annotated, the message stays the same, and so does the commit that is checked. -/
theorem clean_noninterference (file : List Char) :
    (∃ kept, Keeps (lines file) kept ∧ clean file = trim (unlines kept)) ∧
      ∀ file', Relation.ReflTransGen Annotates file file' →
        clean file' = clean file ∧
          Commit.ofMessageFile (.ofList file') = Commit.ofMessageFile (.ofList file) := by
  refine ⟨⟨_, keeps_cleanLines (lines file), clean_eq file⟩, fun file' h => ?_⟩
  have hclean : clean file' = clean file := by
    induction h with
    | refl => rfl
    | tail _ hstep ih => exact hstep.clean_eq.trans ih
  refine ⟨hclean, ?_⟩
  rw [Commit.ofMessageFile, Commit.ofMessageFile, String.toList_ofList, String.toList_ofList,
    hclean]

/-- A file of another system whose last line is a comment. It gets a comment above its first line,
then scissors and a change below, with a comment and more text among the changed lines. -/
theorem clean_noninterference_edited :
    let file : List Char := "feat: a\r\n\r\nSee b. \r\n# Old\r".toList
    let edited : List Char := "# New\r\n".toList ++ file
    let below : List Char := "# Kept?\n+c\n".toList
    Relation.ReflTransGen Annotates file (edited ++ '\n' :: scissors ++ '\n' :: below) ∧
      clean (edited ++ '\n' :: scissors ++ '\n' :: below) = "feat: a\n\nSee b.".toList := by
  intro file edited below
  have hinserts : InsertsLines "# New\r\n".toList file edited :=
    .between (.inl rfl) (.inl (.inr ⟨"# New\r".toList, rfl⟩))
  have hcomment : Annotates file edited := by
    refine .comments hinserts fun line hline => ?_
    obtain rfl : line = "# New".toList := List.mem_singleton.mp hline
    exact ⟨⟨_, rfl⟩, by decide⟩
  have hedits : Relation.ReflTransGen Annotates file
      (edited ++ '\n' :: scissors ++ '\n' :: below) :=
    (Relation.ReflTransGen.single hcomment).tail (.belowScissors below)
  refine ⟨hedits, ?_⟩
  rw [((clean_noninterference file).2 _ hedits).1]
  decide

end CommitLint.Message
