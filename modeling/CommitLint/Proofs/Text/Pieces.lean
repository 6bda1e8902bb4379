import CommitLint.Text.Find
import CommitLint.Text.Line

/-!
# Cutting texts and joining them again

`piecesBy` cuts a text exactly where `List.splitOnP` does, and `joinWith` is `List.intercalate`.
Cutting at a character and joining with it are therefore inverse to each other on lists of texts
that do not hold the character (`joinWith_pieces`, `pieces_joinWith`), and every piece consists of
characters of the text (`subset_of_mem_pieces`).

To prove something of a text piece by piece, use `pieceInduction`.

Lines are such pieces, shortened: no line holds a line feed (`lineFeed_notMem_of_mem_lines`), and
no line has characters of its own (`subset_of_mem_lines`).
-/

namespace CommitLint.Text

/-! ### Pieces -/

theorem piecesBy_eq_splitOnP (p : Char → Bool) (s : List Char) :
    piecesBy p s = s.splitOnP p := by
  induction s with
  | nil => simp [piecesBy]
  | cons c s ih =>
    rw [piecesBy, List.splitOnP_cons_eq_if_modifyHead, ih]
    split
    · rfl
    · cases h : s.splitOnP p with
      | nil => exact absurd h (List.splitOnP_ne_nil p s)
      | cons w ws => rfl

theorem pieces_eq_splitOn (sep : Char) (s : List Char) : pieces sep s = s.splitOn sep := by
  rw [pieces, piecesBy_eq_splitOnP, List.splitOn_eq_splitOnP]

@[simp]
theorem pieces_ne_nil (sep : Char) (s : List Char) : pieces sep s ≠ [] := by
  rw [pieces_eq_splitOn]
  exact List.splitOn_ne_nil sep s

theorem joinWith_eq_intercalate (sep : List Char) :
    ∀ ps : List (List Char), joinWith sep ps = sep.intercalate ps
  | [] => rfl
  | [p] => by rw [joinWith, List.intercalate_singleton]
  | p :: q :: ps => by
    rw [joinWith, joinWith_eq_intercalate sep (q :: ps), List.intercalate_cons_cons]

/-- Joining the pieces of a text gives the text back. -/
theorem joinWith_pieces (sep : Char) (s : List Char) : joinWith [sep] (pieces sep s) = s := by
  rw [joinWith_eq_intercalate, pieces_eq_splitOn, List.intercalate_splitOn]

/-- Texts without the separator are the pieces of what they are joined to. -/
theorem pieces_joinWith {sep : Char} {ps : List (List Char)} (hne : ps ≠ [])
    (hps : ∀ p ∈ ps, sep ∉ p) : pieces sep (joinWith [sep] ps) = ps := by
  rw [joinWith_eq_intercalate, pieces_eq_splitOn, List.splitOn_intercalate sep hps hne]

/-- A joined text consists of characters of its parts and of the separator. -/
theorem mem_joinWith {sep : List Char} {c : Char} :
    ∀ {ps : List (List Char)}, c ∈ joinWith sep ps → c ∈ sep ∨ ∃ p ∈ ps, c ∈ p
  | [], h => by simp [joinWith] at h
  | [p], h => Or.inr ⟨p, by simp, h⟩
  | p :: q :: ps, h => by
    rw [joinWith, List.mem_append, List.mem_append] at h
    rcases h with (h | h) | h
    · exact Or.inr ⟨p, by simp, h⟩
    · exact Or.inl h
    · rcases mem_joinWith h with h | ⟨r, hr, hc⟩
      · exact Or.inl h
      · exact Or.inr ⟨r, List.mem_cons_of_mem p hr, hc⟩

theorem mem_joinWith_of_mem {sep : List Char} {p : List Char} {c : Char} (hc : c ∈ p) :
    ∀ {ps : List (List Char)}, p ∈ ps → c ∈ joinWith sep ps
  | [_], h => by
    rw [List.mem_singleton] at h
    rwa [joinWith, ← h]
  | q :: r :: ps, h => by
    rw [joinWith, List.mem_append, List.mem_append]
    rcases List.mem_cons.mp h with rfl | h
    · exact Or.inl (Or.inl hc)
    · exact Or.inr (mem_joinWith_of_mem hc h)

theorem joinWith_cons {sep : List Char} {ps : List (List Char)} (hne : ps ≠ []) (p : List Char) :
    joinWith sep (p :: ps) = p ++ sep ++ joinWith sep ps := by
  cases ps with
  | nil => exact absurd rfl hne
  | cons q ps => rfl

theorem joinWith_append {sep : List Char} {ps qs : List (List Char)} (hps : ps ≠ [])
    (hqs : qs ≠ []) : joinWith sep (ps ++ qs) = joinWith sep ps ++ sep ++ joinWith sep qs := by
  induction ps with
  | nil => exact absurd rfl hps
  | cons p ps ih =>
    cases ps with
    | nil => exact joinWith_cons hqs p
    | cons q ps =>
      rw [List.cons_append, joinWith_cons (List.append_ne_nil_of_right_ne_nil _ hqs),
        ih (List.cons_ne_nil q ps), joinWith_cons (List.cons_ne_nil q ps) p]
      simp only [List.append_assoc]

theorem infix_joinWith {sep p : List Char} :
    ∀ {ps : List (List Char)}, p ∈ ps → p <:+: joinWith sep ps
  | [q], h => by
    rw [joinWith]
    exact List.mem_singleton.mp h ▸ List.infix_rfl
  | q :: r :: ps, h => by
    rw [joinWith]
    rcases List.mem_cons.mp h with rfl | h
    · exact ((List.prefix_append p sep).trans (List.prefix_append _ _)).isInfix
    · exact (infix_joinWith h).trans (List.suffix_append _ _).isInfix

theorem suffix_joinWith {sep : List Char} (ps : List (List Char)) (p : List Char) :
    p <:+ joinWith sep (ps ++ [p]) := by
  induction ps with
  | nil => exact List.suffix_rfl
  | cons q ps ih =>
    rw [List.cons_append, joinWith_cons (by simp)]
    exact ih.trans (List.suffix_append _ _)

theorem subset_of_mem_pieces {sep : Char} {s p : List Char} (h : p ∈ pieces sep s) : p ⊆ s := by
  intro c hc
  rw [← joinWith_pieces sep s]
  exact mem_joinWith_of_mem hc h

theorem eq_false_of_mem_piecesBy {p : Char → Bool} {s w : List Char} (h : w ∈ piecesBy p s) :
    ∀ c ∈ w, p c = false := by
  induction s generalizing w with
  | nil =>
    rw [piecesBy, List.mem_singleton] at h
    simp [h]
  | cons d s ih =>
    rw [piecesBy] at h
    split at h
    · rcases List.mem_cons.mp h with rfl | h
      · simp
      · exact ih h
    · rename_i hd
      cases hs : piecesBy p s with
      | nil =>
        rw [hs, List.mem_singleton] at h
        simpa [h] using hd
      | cons v vs =>
        rw [hs] at h ih
        rcases List.mem_cons.mp h with rfl | h
        · intro c hc
          rcases List.mem_cons.mp hc with rfl | hc
          · simpa using hd
          · exact ih (by simp) c hc
        · exact ih (List.mem_cons_of_mem v h)

/-- No piece holds the separator. -/
theorem notMem_of_mem_pieces {sep : Char} {s p : List Char} (h : p ∈ pieces sep s) : sep ∉ p := by
  intro hc
  simpa using eq_false_of_mem_piecesBy h sep hc

/-- A separator parts the pieces before it from those after it. -/
theorem pieces_append_cons (sep : Char) (s t : List Char) :
    pieces sep (s ++ sep :: t) = pieces sep s ++ pieces sep t := by
  simp only [pieces, piecesBy_eq_splitOnP]
  exact List.splitOnP_append_cons s t (beq_self_eq_true sep)

/-- What stands before the first separator is the first piece. -/
theorem pieces_append {sep : Char} {p : List Char} (h : sep ∉ p) (s : List Char) :
    pieces sep (p ++ sep :: s) = p :: pieces sep s := by
  rw [pieces_eq_splitOn, pieces_eq_splitOn, List.splitOn_append_cons_self_of_not_mem h]

theorem pieces_of_notMem {sep : Char} {s : List Char} (h : sep ∉ s) : pieces sep s = [s] :=
  pieces_joinWith (List.cons_ne_nil s []) (List.forall_mem_singleton.mpr h)

/-- From piece to piece: a text is its last piece, or a piece and the separator before a text. -/
@[elab_as_elim]
theorem pieceInduction (sep : Char) {motive : List Char → Prop}
    (last : ∀ s, sep ∉ s → motive s)
    (cons : ∀ p s, sep ∉ p → motive s → motive (p ++ sep :: s)) (s : List Char) : motive s := by
  by_cases h : sep ∈ s
  · obtain ⟨p, rest, hs, hp⟩ := List.eq_append_cons_of_mem h
    exact hs ▸ cons p rest hp (pieceInduction sep last cons rest)
  · exact last s h
termination_by s.length
decreasing_by
  rw [hs, List.length_append, List.length_cons]
  omega

/-- What occurs in a text around a separator that it does not hold occurs on one side. -/
theorem infix_append_cons {w : List Char} {sep : Char} (hsep : sep ∉ w) {s t : List Char}
    (h : w <:+: s ++ sep :: t) : w <:+: s ∨ w <:+: t := by
  obtain ⟨b, a, heq⟩ := h
  rw [List.append_assoc] at heq
  rcases List.append_eq_append_iff.mp heq with ⟨x, rfl, hrest⟩ | ⟨x, rfl, hrest⟩
  · rcases List.append_eq_append_iff.mp hrest with ⟨y, rfl, -⟩ | ⟨y, rfl, hsep'⟩
    · exact .inl ⟨b, y, List.append_assoc b w y⟩
    · cases y with
      | nil => exact .inl ⟨b, [], by simp⟩
      | cons c y =>
        obtain ⟨rfl, -⟩ := List.cons_eq_cons.mp hsep'
        exact absurd (by simp) hsep
  · cases x with
    | nil =>
      cases w with
      | nil => exact .inl List.nil_infix
      | cons c w =>
        obtain ⟨rfl, -⟩ := List.cons_eq_cons.mp hrest
        exact absurd List.mem_cons_self hsep
    | cons c x =>
      have htail : t = x ++ (w ++ a) := (List.cons_eq_cons.mp hrest).2
      exact .inr ⟨x, a, by rw [htail, List.append_assoc]⟩

/-- What occurs in a text and does not hold the separator occurs in a piece. -/
theorem exists_piece_of_infix {w : List Char} {sep : Char} (hsep : sep ∉ w) {s : List Char}
    (h : w <:+: s) : ∃ p ∈ pieces sep s, w <:+: p := by
  induction s using pieceInduction sep with
  | last s hs => exact ⟨s, by rw [pieces_of_notMem hs, List.mem_singleton], h⟩
  | cons p s hp ih =>
    rw [pieces_append hp]
    rcases infix_append_cons hsep h with h | h
    · exact ⟨p, List.mem_cons_self, h⟩
    · obtain ⟨q, hq, hw⟩ := ih h
      exact ⟨q, List.mem_cons_of_mem p hq, hw⟩

/-- The last character of a text, unless it is the separator, is that of the last piece. -/
theorem exists_pieces_of_getLast? {sep c : Char} (hc : c ≠ sep) {s : List Char}
    (h : s.getLast? = some c) : ∃ ps p, pieces sep s = ps ++ [p ++ [c]] := by
  induction s using pieceInduction sep with
  | last s hs =>
    obtain ⟨p, rfl⟩ := List.getLast?_eq_some_iff.mp h
    exact ⟨[], p, pieces_of_notMem hs⟩
  | cons q s hq ih =>
    rw [List.getLast?_append, List.getLast?_cons, Option.some_or, Option.some.injEq] at h
    have hlast : s.getLast? = some c := by
      cases hs : s.getLast? with
      | none =>
        rw [hs, Option.getD_none] at h
        exact absurd h.symm hc
      | some d => rw [← h, hs, Option.getD_some]
    obtain ⟨ps, p, hps⟩ := ih hlast
    exact ⟨q :: ps, p, by rw [pieces_append hq, hps, List.cons_append]⟩

/-- Texts that each end with the separator are its pieces, before those of what comes after them. -/
theorem pieces_flatMap {sep : Char} {ps : List (List Char)} (h : ∀ p ∈ ps, sep ∉ p)
    (s : List Char) : pieces sep (ps.flatMap (· ++ [sep]) ++ s) = ps ++ pieces sep s := by
  induction ps with
  | nil => rfl
  | cons p ps ih =>
    obtain ⟨hp, hps⟩ := List.forall_mem_cons.mp h
    rw [List.flatMap_cons, List.append_assoc, List.append_assoc, List.singleton_append,
      pieces_append hp, ih hps, List.cons_append]

/-! ### The first occurrence of a character -/

/-- A text is cut at a separator that nothing before it equals. -/
theorem cutAt_append {sep : Char} {before : List Char} (h : sep ∉ before) (after : List Char) :
    cutAt sep (before ++ sep :: after) = some (before, after) := by
  induction before with
  | nil => simp [cutAt]
  | cons c before ih =>
    obtain ⟨hc, hbefore⟩ := not_or.mp (mt List.mem_cons.mpr h)
    rw [List.cons_append, cutAt, if_neg (Ne.symm hc), ih hbefore, Option.map_some]

/-! ### Lines -/

theorem dropCarriageReturn_eq_or (s : List Char) :
    dropCarriageReturn s = s ∨ s = dropCarriageReturn s ++ ['\r'] := by
  induction s using dropCarriageReturn.induct with
  | case1 => exact .inl rfl
  | case2 => exact .inr rfl
  | case3 c s hne ih =>
    rw [dropCarriageReturn]
    · exact ih.imp (congrArg _) (congrArg _)
    · exact hne

theorem dropCarriageReturn_subset (s : List Char) : dropCarriageReturn s ⊆ s := by
  intro c hc
  rcases dropCarriageReturn_eq_or s with h | h
  · rwa [h] at hc
  · rw [h]
    exact List.mem_append_left _ hc

/-- What stands before the first line feed is the first line. -/
theorem lines_append {l : List Char} (h : '\n' ∉ l) (s : List Char) :
    lines (l ++ '\n' :: s) = dropCarriageReturn l :: lines s := by
  rw [lines, pieces_append h, lines]
  cases hs : pieces '\n' s with
  | nil => exact absurd hs (pieces_ne_nil '\n' s)
  | cons p ps => rfl

theorem subset_of_mem_linesOfPieces {l : List Char} :
    ∀ {ps : List (List Char)}, l ∈ linesOfPieces ps → ∃ p ∈ ps, l ⊆ p
  | [], h => by simp [linesOfPieces] at h
  | [p], h => by
    rw [linesOfPieces] at h
    split at h
    · simp at h
    · rw [List.mem_singleton] at h
      exact ⟨p, by simp, by rw [h]; exact fun _ hc => hc⟩
  | p :: q :: ps, h => by
    rw [linesOfPieces] at h
    rcases List.mem_cons.mp h with rfl | h
    · exact ⟨p, by simp, dropCarriageReturn_subset p⟩
    · obtain ⟨r, hr, hl⟩ := subset_of_mem_linesOfPieces h
      exact ⟨r, List.mem_cons_of_mem p hr, hl⟩

/-- A line consists of characters of the text. -/
theorem subset_of_mem_lines {s l : List Char} (h : l ∈ lines s) : l ⊆ s := by
  obtain ⟨p, hp, hl⟩ := subset_of_mem_linesOfPieces h
  exact fun c hc => subset_of_mem_pieces hp (hl hc)

/-- No line holds a line feed. -/
theorem lineFeed_notMem_of_mem_lines {s l : List Char} (h : l ∈ lines s) : '\n' ∉ l := by
  obtain ⟨p, hp, hl⟩ := subset_of_mem_linesOfPieces h
  exact fun hc => notMem_of_mem_pieces hp (hl hc)

/-! ### Replacing a character -/

theorem replaceChar_append (c : Char) (new s t : List Char) :
    replaceChar c new (s ++ t) = replaceChar c new s ++ replaceChar c new t :=
  List.flatMap_append

theorem replaceChar_of_notMem {c : Char} {new s : List Char} (h : c ∉ s) :
    replaceChar c new s = s := by
  induction s with
  | nil => rfl
  | cons d s ih =>
    obtain ⟨hd, hs⟩ := not_or.mp (mt List.mem_cons.mpr h)
    rw [replaceChar, List.flatMap_cons, if_neg (Ne.symm hd)]
    exact congrArg (d :: ·) (ih hs)

end CommitLint.Text
