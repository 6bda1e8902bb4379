import CommitLint.Armor
import CommitLint.Proofs.Text.Find
import CommitLint.Proofs.Text.LineEnd

/-!
# The first block of a text

Three searches decide which part of a text is its first block: for what opens a first line, for the
end of that line, and for the last line that belongs to it. `IsFirstBlock` says what the three find,
`LacksBlock` which of them finds nothing, and `firstBlock` answers exactly that
(`firstBlock_eq_ok_iff`, `firstBlock_eq_error_iff`).

A block stays the first one whatever follows it, and whatever stands before it as long as that does
not open a first line itself (`IsBlock.isFirstBlock`). An occurrence of a mark might still
straddle a boundary of the block. At the beginning it cannot, since what opens a first line ends in
a character that it has nowhere else. At the end of the first line it cannot, since no last line
holds a line feed. And at the end of the block nothing can begin that would come earlier than what
the block ends with.
-/

namespace CommitLint.Armor

open Text

/-! ### First lines -/

/-- The first line of a block of a given type. -/
def beginLine (blockType : List Char) : List Char := beginStart ++ blockType ++ dashes

/-- A text up to its first line feed. -/
def firstLine (s : List Char) : List Char := s.takeWhile (· != '\n')

/-- A text begins with the first line of a block of a given type; blanks around the line do not
count. -/
def NamesType (s blockType : List Char) : Prop := trim (firstLine s) = beginLine blockType

theorem firstLine_append {l : List Char} (h : '\n' ∉ l) (s : List Char) :
    firstLine (l ++ '\n' :: s) = l := by
  have hl : ∀ c ∈ l, (c != '\n') = true := fun c hc => by
    rw [bne_iff_ne]
    exact fun heq => h (heq ▸ hc)
  rw [firstLine, List.takeWhile_append_of_pos hl, List.takeWhile_cons_of_neg (by simp),
    List.append_nil]

/-- Trimmed, the first of the lines of a text is what precedes the first line feed. -/
theorem trim_headD_lines (s : List Char) : trim ((lines s).headD []) = trim (firstLine s) := by
  cases hrest : s.dropWhile (· != '\n') with
  | nil =>
    have hline : firstLine s = s := by
      have hs := List.takeWhile_append_dropWhile (p := (· != '\n')) (l := s)
      rwa [hrest, List.append_nil] at hs
    have hnot : '\n' ∉ s := fun h => by simpa using List.dropWhile_eq_nil_iff.mp hrest '\n' h
    have hne : [s] ≠ [] := by simp
    have hpieces : pieces '\n' s = [s] := pieces_joinWith hne (by simpa using hnot)
    rw [hline, lines, hpieces, linesOfPieces]
    cases s <;> rfl
  | cons c rest =>
    have hc : c = '\n' := by
      have h := List.head?_dropWhile_not (· != '\n') s
      rw [hrest] at h
      simpa using h
    have hs : s = firstLine s ++ '\n' :: rest := by
      rw [← hc, ← hrest]
      exact List.takeWhile_append_dropWhile.symm
    have hnot : '\n' ∉ firstLine s := fun h => by simpa using List.mem_takeWhile_imp h
    have hlines : lines s = dropCarriageReturn (firstLine s) :: lines rest :=
      (congrArg lines hs).trans (lines_append hnot rest)
    rw [hlines, List.headD_cons, trim_dropCarriageReturn]

theorem typeOfLine?_eq_some_iff {line blockType : List Char} :
    typeOfLine? line = some blockType ↔ line = beginLine blockType := by
  rw [typeOfLine?, Option.bind_eq_some_iff, beginLine, List.append_assoc]
  constructor
  · rintro ⟨rest, hstart, hend⟩
    rw [afterStart?_eq_some_iff.mp hstart, beforeEnd?_eq_some_iff.mp hend]
  · rintro rfl
    exact ⟨_, afterStart?_eq_some_iff.mpr rfl, beforeEnd?_eq_some_iff.mpr rfl⟩

theorem namesType_iff {s blockType : List Char} :
    NamesType s blockType ↔ typeOfLine? (trim ((lines s).headD [])) = some blockType := by
  rw [typeOfLine?_eq_some_iff, trim_headD_lines, NamesType]

/-! ### What the searches find -/

/-- What follows the place where a first line opens, for the first time in a text. -/
def IsOpened (text rest : List Char) : Prop :=
  ∃ before after, IsFirstCut beginStart text before after ∧ rest = beginStart ++ after

/-- The first block of a text, with its type: from where a first line opens through the first last
line of the type that it names. -/
def IsFirstBlock (text blockType block : List Char) : Prop :=
  ∃ rest before after, IsOpened text rest ∧ NamesType rest blockType ∧
    IsFirstCut (endLine blockType) rest before after ∧ block = before ++ endLine blockType

/-- Why a text has no first block: the first search that finds nothing. -/
inductive LacksBlock (text : List Char) : Fault → Prop
  | noBegin : ¬beginStart <:+: text → LacksBlock text .noBegin
  | unreadableBegin {rest : List Char} : IsOpened text rest →
      (∀ blockType, ¬NamesType rest blockType) → LacksBlock text .unreadableBegin
  | endMismatch {rest blockType : List Char} : IsOpened text rest → NamesType rest blockType →
      ¬endLine blockType <:+: rest → endStart <:+: rest →
      LacksBlock text (.endMismatch (.ofList blockType))
  | missingEnd {rest blockType : List Char} : IsOpened text rest → NamesType rest blockType →
      ¬endStart <:+: rest → LacksBlock text .missingEnd

theorem not_endLine_isInfix {blockType rest : List Char} (h : ¬endStart <:+: rest) :
    ¬endLine blockType <:+: rest := fun hend =>
  h (List.IsInfix.trans ⟨[], blockType ++ dashes, by simp [endLine]⟩ hend)

theorem firstBlock_of_isFirstBlock {text blockType block : List Char}
    (h : IsFirstBlock text blockType block) : firstBlock text = .ok (blockType, block) := by
  obtain ⟨_, before, _, ⟨_, after, hbegin, rfl⟩, hnames, hend, rfl⟩ := h
  simp only [firstBlock, cutAtText_eq_some_iff.mpr hbegin, namesType_iff.mp hnames,
    cutAtText_eq_some_iff.mpr hend]

theorem firstBlock_of_lacksBlock {text : List Char} {fault : Fault} (h : LacksBlock text fault) :
    firstBlock text = .error fault := by
  cases h with
  | noBegin hbegin => simp only [firstBlock, cutAtText_eq_none_iff.mpr hbegin]
  | unreadableBegin hopened hnames =>
    obtain ⟨_, after, hbegin, rfl⟩ := hopened
    have hnone : typeOfLine? (trim ((lines (beginStart ++ after)).headD [])) = none :=
      Option.eq_none_iff_forall_ne_some.mpr fun t ht => hnames t (namesType_iff.mpr ht)
    simp only [firstBlock, cutAtText_eq_some_iff.mpr hbegin, hnone]
  | endMismatch hopened hnames hend hstart =>
    obtain ⟨_, after, hbegin, rfl⟩ := hopened
    simp only [firstBlock, cutAtText_eq_some_iff.mpr hbegin, namesType_iff.mp hnames,
      cutAtText_eq_none_iff.mpr hend, occurs_iff.mpr hstart, if_true]
  | missingEnd hopened hnames hstart =>
    obtain ⟨_, after, hbegin, rfl⟩ := hopened
    simp only [firstBlock, cutAtText_eq_some_iff.mpr hbegin, namesType_iff.mp hnames,
      cutAtText_eq_none_iff.mpr (not_endLine_isInfix hstart)]
    exact if_neg (mt occurs_iff.mp hstart)

/-- Either the searches find a block, or one of them finds nothing. -/
theorem isFirstBlock_or_lacksBlock (text : List Char) :
    (∃ blockType block, IsFirstBlock text blockType block) ∨ ∃ fault, LacksBlock text fault := by
  cases hbegin : cutAtText beginStart text with
  | none => exact .inr ⟨_, .noBegin (cutAtText_eq_none_iff.mp hbegin)⟩
  | some cut =>
    have hopened : IsOpened text (beginStart ++ cut.2) :=
      ⟨cut.1, cut.2, cutAtText_eq_some_iff.mp hbegin, rfl⟩
    by_cases hnames : ∃ blockType, NamesType (beginStart ++ cut.2) blockType
    · obtain ⟨blockType, hnames⟩ := hnames
      cases hend : cutAtText (endLine blockType) (beginStart ++ cut.2) with
      | some found =>
        exact .inl ⟨blockType, _, _, found.1, found.2, hopened, hnames,
          cutAtText_eq_some_iff.mp hend, rfl⟩
      | none =>
        by_cases hstart : endStart <:+: beginStart ++ cut.2
        · exact .inr ⟨_, .endMismatch hopened hnames (cutAtText_eq_none_iff.mp hend) hstart⟩
        · exact .inr ⟨_, .missingEnd hopened hnames hstart⟩
    · exact .inr ⟨_, .unreadableBegin hopened (not_exists.mp hnames)⟩

theorem firstBlock_eq_ok_iff {text blockType block : List Char} :
    firstBlock text = .ok (blockType, block) ↔ IsFirstBlock text blockType block := by
  refine ⟨fun h => ?_, firstBlock_of_isFirstBlock⟩
  rcases isFirstBlock_or_lacksBlock text with ⟨t, b, hfirst⟩ | ⟨fault, hlacks⟩
  · rw [firstBlock_of_isFirstBlock hfirst] at h
    cases h
    exact hfirst
  · rw [firstBlock_of_lacksBlock hlacks] at h
    cases h

theorem firstBlock_eq_error_iff {text : List Char} {fault : Fault} :
    firstBlock text = .error fault ↔ LacksBlock text fault := by
  refine ⟨fun h => ?_, firstBlock_of_lacksBlock⟩
  rcases isFirstBlock_or_lacksBlock text with ⟨t, b, hfirst⟩ | ⟨fault', hlacks⟩
  · rw [firstBlock_of_isFirstBlock hfirst] at h
    cases h
  · rw [firstBlock_of_lacksBlock hlacks] at h
    cases h
    exact hlacks

/-! ### A block within a text -/

/-- A block of a given type: its first line, after which blanks may stand, and all that follows
through the first last line. -/
def IsBlock (blockType block : List Char) : Prop :=
  ∃ blanks body, isBlankText blanks ∧ '\n' ∉ blanks ∧ '\n' ∉ blockType ∧
    IsFirstCut (endLine blockType) (body ++ endLine blockType) body [] ∧
    block = beginLine blockType ++ blanks ++ '\n' :: (body ++ endLine blockType)

theorem beginLine_eq (blockType : List Char) :
    beginLine blockType =
      ['-', '-', '-', '-', '-', 'B', 'E', 'G', 'I', 'N', ' '] ++ blockType ++
        ['-', '-', '-', '-', '-'] := rfl

theorem endLine_eq (blockType : List Char) :
    endLine blockType =
      ['-', '-', '-', '-', '-', 'E', 'N', 'D', ' '] ++ blockType ++ ['-', '-', '-', '-', '-'] := rfl

theorem trim_beginLine_append {blanks : List Char} (h : isBlankText blanks)
    (blockType : List Char) : trim (beginLine blockType ++ blanks) = beginLine blockType := by
  rw [trim_append_of_isBlankText h]
  have hends : beginLine blockType =
      '-' :: (['-', '-', '-', '-', 'B', 'E', 'G', 'I', 'N', ' '] ++ blockType ++
        ['-', '-', '-', '-']) ++ ['-'] := by
    simp [beginLine_eq]
  rw [hends, trim_cons_append (by decide) (by decide)]

/-- No last line of a type fits into the first line of the same type. -/
theorem not_endLine_isInfix_beginLine {blanks : List Char} (h : isBlankText blanks)
    (blockType : List Char) : ¬endLine blockType <:+: beginLine blockType ++ blanks := by
  rintro ⟨x, y, heq⟩
  -- A last line ends in a dash, which is no blank, so what follows it includes the blanks.
  have hy : blanks.length ≤ y.length := by
    obtain ⟨w, hw⟩ : ∃ w, endLine blockType = w ++ ['-'] :=
      ⟨['-', '-', '-', '-', '-', 'E', 'N', 'D', ' '] ++ blockType ++ ['-', '-', '-', '-'],
        by simp [endLine_eq]⟩
    rcases List.append_eq_append_iff.mp heq with ⟨as, -, rfl⟩ | ⟨bs, hbs, rfl⟩
    · simp
    obtain rfl | ⟨bs, c, rfl⟩ := List.eq_nil_or_concat bs
    · simp
    rw [hw, ← List.append_assoc, List.concat_eq_append, ← List.append_assoc] at hbs
    obtain ⟨-, hc⟩ := List.append_inj' hbs rfl
    obtain ⟨rfl, -⟩ := List.cons_eq_cons.mp hc
    exact absurd (List.all_eq_true.mp h '-' (by simp)) (by decide)
  have hx : x.length ≤ 2 := by
    have hlength := congrArg List.length heq
    simp only [endLine_eq, beginLine_eq, List.length_append, List.length_cons,
      List.length_nil] at hlength
    omega
  -- At none of the three places that remain do the characters of the two lines agree.
  rw [endLine_eq, beginLine_eq] at heq
  rcases x with _ | ⟨a, _ | ⟨b, _ | ⟨c, x⟩⟩⟩
  · simp at heq
  · simp at heq
  · simp at heq
  · simp at hx

/-- What opens a first line ends in a space and has no other, so it is first wherever nothing opens
a line before it. -/
theorem isFirstCut_beginStart {start : List Char} (h : ¬beginStart <:+: start)
    (after : List Char) : IsFirstCut beginStart (start ++ beginStart ++ after) start after := by
  have hlast : beginStart = ['-', '-', '-', '-', '-', 'B', 'E', 'G', 'I', 'N'] ++ [' '] := rfl
  rw [hlast] at h ⊢
  exact isFirstCut_of_last (by decide) h after

/-- A block is the first block of any text in which no first line opens before it, whatever follows
it. -/
theorem IsBlock.isFirstBlock {blockType block : List Char} (h : IsBlock blockType block)
    {start : List Char} (hstart : ¬beginStart <:+: start) (rest : List Char) :
    IsFirstBlock (start ++ block ++ rest) blockType block := by
  obtain ⟨blanks, body, hblank, hblanks, htype, hend, rfl⟩ := h
  set line := beginLine blockType ++ blanks with hline
  have hopened : IsOpened (start ++ (line ++ '\n' :: (body ++ endLine blockType)) ++ rest)
      (line ++ '\n' :: (body ++ endLine blockType) ++ rest) := by
    refine ⟨start, blockType ++ dashes ++ blanks ++ '\n' :: (body ++ endLine blockType) ++ rest,
      ?_, by simp [hline, beginLine]⟩
    have hcut := isFirstCut_beginStart hstart
      (blockType ++ dashes ++ blanks ++ '\n' :: (body ++ endLine blockType) ++ rest)
    simpa [hline, beginLine] using hcut
  have hnames : NamesType (line ++ '\n' :: (body ++ endLine blockType) ++ rest) blockType := by
    have hnot : '\n' ∉ line := by simp [hline, beginLine_eq, htype, hblanks]
    rw [NamesType, List.append_assoc, List.cons_append, firstLine_append hnot,
      trim_beginLine_append hblank]
  have hcut : IsFirstCut (endLine blockType)
      (line ++ '\n' :: (body ++ endLine blockType) ++ rest) (line ++ '\n' :: body) rest := by
    have hlineFeed : '\n' ∉ endLine blockType := by simp [endLine_eq, htype]
    exact (hend.append_cons (not_endLine_isInfix_beginLine hblank blockType) hlineFeed).append rest
  exact ⟨_, _, _, hopened, hnames, hcut, by simp⟩

/-- What stands around a block does not change what the block says, unless a first line opens before
it. -/
theorem IsBlock.decode_append_append {blockType block : List Char} (h : IsBlock blockType block)
    {start : List Char} (hstart : ¬beginStart <:+: start) (rest : List Char) :
    decode (start ++ block ++ rest) = decode block := by
  have hnil : ¬beginStart <:+: [] := by decide
  have halone : IsFirstBlock block blockType block := by simpa using h.isFirstBlock hnil []
  rw [decode, decode, firstBlock_eq_ok_iff.mpr (h.isFirstBlock hstart rest),
    firstBlock_eq_ok_iff.mpr halone]

end CommitLint.Armor
