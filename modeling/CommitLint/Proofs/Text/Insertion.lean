import CommitLint.Proofs.Text.LineEnd

/-!
# Lines written into a text

Lines are inserted into a text between two of its lines, before the first one, or after the last
(`InsertsLines`). After a text that does not end with a line feed, one has to be written first, and
it takes with it a carriage return that belonged to the last line so far. So the lines around the
new ones are those of the text up to blanks at its end (`InsertsLines.exists_lines`), which is all
that a reader of lines has to know.

Where a text consists of pieces that are whole lines each, other such pieces may be written between
them (`Weaves`), and the lines of the text stay as they are (`Weaves.sublist_lines`).
-/

namespace CommitLint.Text

/-- A new line begins after a text: the text is empty or ends with a line feed. -/
def EndsLine (s : List Char) : Prop := s = [] ∨ ∃ t, s = t ++ ['\n']

/-- A text with other lines inserted into it: where a line begins, or below the last line. The last
line of all needs no line feed. -/
inductive InsertsLines (extra : List Char) : List Char → List Char → Prop
  | between {above below : List Char} : EndsLine above → (EndsLine extra ∨ below = []) →
      InsertsLines extra (above ++ below) (above ++ extra ++ below)
  | below (s : List Char) : InsertsLines extra s (s ++ '\n' :: extra)

/-- A line feed parts the lines before it from those after it. -/
theorem lines_append_cons (s t : List Char) :
    lines (s ++ '\n' :: t) = lines (s ++ ['\n']) ++ lines t := by
  induction s using pieceInduction '\n' with
  | last s hs =>
    rw [lines_append hs, lines_append hs]
    rfl
  | cons l s hl ih =>
    rw [List.append_assoc, List.cons_append, lines_append hl, ih, List.append_assoc,
      List.cons_append, lines_append hl, List.cons_append]

theorem EndsLine.lines_append {s : List Char} (h : EndsLine s) (t : List Char) :
    lines (s ++ t) = lines s ++ lines t := by
  rcases h with rfl | ⟨s, rfl⟩
  · rfl
  · rw [List.append_assoc, List.singleton_append, lines_append_cons]

/-- The lines of the text stay around the new ones, up to blanks at the end of the text. -/
theorem InsertsLines.exists_lines {extra s s' : List Char} (h : InsertsLines extra s s') :
    ∃ above below, BlankExtension (lines s) (above ++ below) ∧
      lines s' = above ++ lines extra ++ below := by
  cases h with
  | @between above below habove hextra =>
    refine ⟨lines above, lines below, habove.lines_append below ▸ .refl _, ?_⟩
    rw [List.append_assoc, habove.lines_append, List.append_assoc]
    rcases hextra with hextra | rfl
    · rw [hextra.lines_append]
    · rw [List.append_nil]
      exact congrArg _ (List.append_nil _).symm
  | below s =>
    refine ⟨lines (s ++ ['\n']), [], ?_, ?_⟩
    · rw [List.append_nil]
      exact blankExtension_lines s (by decide)
    · rw [List.append_nil, lines_append_cons]

/-! ### Pieces that are lines -/

theorem endsLine_lineFeed (s : String) : EndsLine (s ++ "\n").toList := by
  rw [String.toList_append]
  exact .inr ⟨s.toList, rfl⟩

theorem EndsLine.append {s t : List Char} (hs : EndsLine s) (ht : EndsLine t) :
    EndsLine (s ++ t) := by
  rcases ht with rfl | ⟨t, rfl⟩
  · rwa [List.append_nil]
  · exact .inr ⟨s ++ t, (List.append_assoc s t _).symm⟩

theorem EndsLine.flatMap {α : Type} {f : α → List Char} {l : List α}
    (h : ∀ a ∈ l, EndsLine (f a)) : EndsLine (l.flatMap f) := by
  induction l with
  | nil => exact .inl rfl
  | cons a l ih =>
    obtain ⟨ha, hl⟩ := List.forall_mem_cons.mp h
    exact ha.append (ih hl)

/-- Some pieces are written into a text, one after the other, where lines begin. -/
inductive Weaves : List (List Char) → List Char → List Char → Prop
  | nil : Weaves [] [] []
  | keep {added : List (List Char)} {above s s' : List Char} : EndsLine above →
      Weaves added s s' → Weaves added (above ++ s) (above ++ s')
  | add {added : List (List Char)} {piece s s' : List Char} : EndsLine piece →
      Weaves added s s' → Weaves (piece :: added) s (piece ++ s')

/-- The lines of the text stay, in their order. -/
theorem Weaves.sublist_lines {added : List (List Char)} {s s' : List Char}
    (h : Weaves added s s') : (lines s).Sublist (lines s') := by
  induction h with
  | nil => exact .refl _
  | keep habove _ ih =>
    rw [habove.lines_append, habove.lines_append]
    exact ih.append_left _
  | add hpiece _ ih =>
    rw [hpiece.lines_append]
    exact ih.trans (List.sublist_append_right _ _)

theorem Weaves.append {added added' : List (List Char)} {s s' t t' : List Char}
    (h : Weaves added s s') (h' : Weaves added' t t') :
    Weaves (added ++ added') (s ++ t) (s' ++ t') := by
  induction h with
  | nil => exact h'
  | keep habove _ ih =>
    rw [List.append_assoc, List.append_assoc]
    exact .keep habove ih
  | add hpiece _ ih =>
    rw [List.append_assoc]
    exact .add hpiece ih

theorem weaves_self {s : List Char} (h : EndsLine s) : Weaves [] s s := by
  simpa only [List.append_nil] using Weaves.keep h .nil

theorem Weaves.flatMap {α : Type} {added : α → List (List Char)} {s s' : α → List Char}
    {l : List α} (h : ∀ a ∈ l, Weaves (added a) (s a) (s' a)) :
    Weaves (l.flatMap added) (l.flatMap s) (l.flatMap s') := by
  induction l with
  | nil => exact .nil
  | cons a l ih =>
    obtain ⟨ha, hl⟩ := List.forall_mem_cons.mp h
    exact ha.append (ih hl)

end CommitLint.Text
