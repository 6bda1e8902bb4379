import CommitLint.Proofs.Check.Family
import CommitLint.Proofs.Check.Respelling
import CommitLint.Proofs.Trailer

/-!
# What is reported about a body

A finding about a body stands for one of three things, each read off the lines of the message or of
the body: the line after the subject has visible text (`HasSecondLine`), a required body lacks
something (`Lacks`), or a line out of place stands below the first sign-off (`IsBelow`,
`IsOutOfPlace`). `reports_body_iff` says which code is reported for which of them, and `body_exact`
what follows: what is lacking is one thing at most, and what stands below the first sign-off is
judged by those lines alone, and only where the rule on sign-offs counts one.
-/

namespace CommitLint.Check

open Text Trailer

/-! ### The line after the subject -/

/-- The second line of a message has visible text. -/
def HasSecondLine (message : List Char) : Prop :=
  ∃ second, (lines message)[1]? = some second ∧ ¬isBlankText second

theorem hasSecondLine_iff {message : List Char} :
    HasSecondLine message ↔ ¬isBlankText ((lines message).tail.headD []) := by
  rw [HasSecondLine]
  rcases lines message with _ | ⟨first, _ | ⟨second, more⟩⟩ <;> simp [isBlankText]

/-- A message has a second line exactly if the body begins there. -/
theorem hasSecondLine_iff_body {message : List Char} :
    HasSecondLine message ↔
      Message.body message ≠ [] ∧
        Message.body message = trimEnd (unlines (lines message).tail) := by
  rw [hasSecondLine_iff, Message.body]
  cases htail : (lines message).tail with
  | nil => simp [isBlankText, unlines, joinWith, trimEnd, dropEndWhile]
  | cons second more =>
    rw [List.headD_cons]
    by_cases hsecond : isBlankText second
    · refine iff_of_false (by simpa using hsecond) ?_
      rintro ⟨hne, heq⟩
      -- A blank second line stands before the body in what is trimmed, so that is longer.
      have hrest : ¬isBlankText (unlines ((second :: more).dropWhile isBlankText)) :=
        fun hblank => hne (trimEnd_eq_nil_iff.mpr hblank)
      have hstart : (second :: more).takeWhile isBlankText ≠ [] := by simp [hsecond]
      have hend : (second :: more).dropWhile isBlankText ≠ [] := fun hnil =>
        hrest (by rw [hnil]; rfl)
      have hsplit : unlines (second :: more) =
          unlines ((second :: more).takeWhile isBlankText) ++ ['\n'] ++
            unlines ((second :: more).dropWhile isBlankText) := by
        rw [unlines, unlines, unlines, ← joinWith_append hstart hend,
          List.takeWhile_append_dropWhile]
      rw [hsplit, trimEnd_append_of_not_isBlankText hrest] at heq
      have hlength := congrArg List.length heq
      simp only [List.length_append, List.length_cons] at hlength
      omega
    · refine iff_of_true (by simpa using hsecond) ⟨fun hnil => ?_, ?_⟩
      · rw [List.dropWhile_cons_of_neg hsecond, trimEnd_eq_nil_iff] at hnil
        exact hsecond (isBlankText_of_mem_unlines hnil List.mem_cons_self)
      · rw [List.dropWhile_cons_of_neg hsecond]

theorem reports_blankLineFindings_iff {message : List Char} {code : Code} :
    Reports (blankLineFindings message) code ↔
      code = .missingBlankLine ∧ HasSecondLine message := by
  rw [hasSecondLine_iff, blankLineFindings_eq]
  split
  · rename_i h
    exact iff_of_false reports_nil fun hsecond => hsecond.2 h
  · rename_i h
    rw [reports_singleton, and_iff_left h, eq_comm]

/-! ### What a required body lacks -/

/-- Every line with visible text looks like a sign-off. -/
def OnlySignOffs (text : List Char) : Prop :=
  ∀ line ∈ lines text, ¬isBlankText line → IsAttempt line

/-- What a required body lacks, the first that applies. Blanks around a body do not count as
characters of it. -/
inductive Lacks (settings : Settings.Body) (text : List Char) : Code → Prop
  | body : isBlankText text → Lacks settings text .missingBody
  | content : ¬isBlankText text → OnlySignOffs text → settings.allowSignoffOnly = false →
      Lacks settings text .signoffOnlyBody
  | length : ¬isBlankText text → ¬(OnlySignOffs text ∧ settings.allowSignoffOnly = false) →
      (trim text).length < settings.minLength → Lacks settings text .bodyTooShort

/-- The codes of what a body can lack. -/
def lackCodes : List Code := [.missingBody, .signoffOnlyBody, .bodyTooShort]

theorem holdsOnlySignOffs_trim_iff {text : List Char} :
    holdsOnlySignOffs (trim text) = true ↔ OnlySignOffs text := by
  have hvisible : ∀ s : List Char,
      (∀ line ∈ lines s, ¬isBlankText line → IsAttempt (trim line)) ↔
        ∀ t ∈ visibleLines s, IsAttempt t := by
    intro s
    simp only [visibleLines, mem_visibleOf]
    constructor
    · rintro h t ⟨line, hl, hne, rfl⟩
      exact h line hl hne
    · exact fun h line hl hne => h _ ⟨line, hl, hne, rfl⟩
  have hlines : holdsOnlySignOffs (trim text) = true ↔
      ∀ line ∈ lines (trim text), ¬isBlankText line → IsAttempt (trim line) := by
    simp only [holdsOnlySignOffs, isBlankLine, List.all_eq_true, List.mem_filter, and_imp,
      isSignOffAttempt_iff, Bool.not_eq_true', Bool.not_eq_true]
  rw [hlines, hvisible, visibleLines_trim, ← hvisible]
  simp only [isAttempt_trim_iff, OnlySignOffs]

theorem reports_requiredFindings_iff {settings : Settings.Body} {text : List Char} {code : Code} :
    Reports (requiredFindings settings text) code ↔ Lacks settings text code := by
  have hblank : (trim text).isEmpty = true ↔ isBlankText text := by
    rw [List.isEmpty_iff, trim_eq_nil_iff]
  have honly : (holdsOnlySignOffs (trim text) && !settings.allowSignoffOnly) = true ↔
      OnlySignOffs text ∧ settings.allowSignoffOnly = false := by
    rw [Bool.and_eq_true, holdsOnlySignOffs_trim_iff, Bool.not_eq_true']
  rw [requiredFindings]
  constructor
  · intro h
    split at h
    · rename_i hnone
      exact reports_singleton.mp h ▸ .body (hblank.mp hnone)
    · rename_i hvisible
      split at h
      · rename_i hsignOffs
        obtain ⟨hsignOffs, hallow⟩ := honly.mp hsignOffs
        exact reports_singleton.mp h ▸ .content (mt hblank.mpr hvisible) hsignOffs hallow
      · rename_i hcontent
        split at h
        · rename_i hshort
          exact reports_singleton.mp h ▸
            .length (mt hblank.mpr hvisible) (mt honly.mpr hcontent) hshort
        · exact absurd h reports_nil
  · intro h
    cases h with
    | body hnone => rw [if_pos (hblank.mpr hnone), reports_singleton]
    | content hvisible hsignOffs hallow =>
      rw [if_neg (mt hblank.mp hvisible), if_pos (honly.mpr ⟨hsignOffs, hallow⟩), reports_singleton]
    | length hvisible hcontent hshort =>
      rw [if_neg (mt hblank.mp hvisible), if_neg (mt honly.mp hcontent), if_pos hshort,
        reports_singleton]

/-! ### What stands below a sign-off -/

/-- Some lines are those below the first sign-off of others. -/
def IsBelow (ls below : List (List Char)) : Prop :=
  ∃ above signOff, ls = above ++ signOff :: below ∧ (∀ line ∈ above, ¬IsSignOff line) ∧
    IsSignOff signOff

/-- A line has visible text, which is no permitted trailer and does not look like a sign-off. -/
def IsOutOfPlace (line : List Char) : Prop :=
  ¬isBlankText line ∧ ¬IsPermitted (trim line) ∧ ¬IsAttempt line

/-- A line is the first of some lines that is out of place. -/
def IsFirstOutOfPlace (ls : List (List Char)) (line : List Char) : Prop :=
  ∃ before after, ls = before ++ line :: after ∧ (∀ l ∈ before, ¬IsOutOfPlace l) ∧
    IsOutOfPlace line

theorem isOutOfPlace_trim_iff {line : List Char} :
    isOutOfPlace (trim line) = true ↔ IsOutOfPlace line := by
  rw [isOutOfPlace, IsOutOfPlace, ← isAttempt_trim_iff, ← isPermitted_iff, ← isSignOffAttempt_iff,
    ← trim_eq_nil_iff]
  simp [and_assoc]

/-- A sign-off may stand below another one. -/
theorem not_isOutOfPlace_of_isSignOff {line : List Char} (h : IsSignOff line) :
    ¬IsOutOfPlace line :=
  fun hout => hout.2.2 h.isAttempt

theorem find?_eq_some_iff_isFirstOutOfPlace {ls : List (List Char)} {line : List Char} :
    ls.find? (fun l => isOutOfPlace (trim l)) = some line ↔ IsFirstOutOfPlace ls line := by
  rw [List.find?_eq_some_iff_append, IsFirstOutOfPlace, isOutOfPlace_trim_iff]
  simp only [Bool.not_eq_true', ← Bool.not_eq_true, isOutOfPlace_trim_iff]
  exact ⟨fun ⟨hout, before, after, heq, hbefore⟩ => ⟨before, after, heq, hbefore, hout⟩,
    fun ⟨before, after, heq, hbefore, hout⟩ => ⟨hout, before, after, heq, hbefore⟩⟩

theorem exists_isFirstOutOfPlace_iff {ls : List (List Char)} :
    (∃ line, IsFirstOutOfPlace ls line) ↔ ∃ line ∈ ls, IsOutOfPlace line := by
  simp only [← find?_eq_some_iff_isFirstOutOfPlace, ← Option.isSome_iff_exists, List.find?_isSome,
    isOutOfPlace_trim_iff]

/-- From the first sign-off on, the lines are that one and those below it. -/
theorem isBelow_iff {ls below : List (List Char)} :
    IsBelow ls below ↔
      ∃ signOff, IsSignOff signOff ∧ ls.dropWhile (!isSignOff ·) = signOff :: below := by
  constructor
  · rintro ⟨above, signOff, rfl, habove, hsignOff⟩
    refine ⟨signOff, hsignOff, ?_⟩
    rw [List.dropWhile_append_of_pos (by simpa [← isSignOff_iff] using habove),
      List.dropWhile_cons_of_neg (by simpa [isSignOff_iff] using hsignOff)]
  · rintro ⟨signOff, hsignOff, hdrop⟩
    refine ⟨ls.takeWhile (!isSignOff ·), signOff, ?_, fun line hline => ?_, hsignOff⟩
    · rw [← hdrop, List.takeWhile_append_dropWhile]
    · simpa [← isSignOff_iff] using List.mem_takeWhile_imp hline

theorem contentAfterSignOff?_eq (text : List Char) :
    contentAfterSignOff? text =
      (((lines text).dropWhile (!isSignOff ·)).find? (fun line => isOutOfPlace (trim line))).map
        trim := by
  have hsame : (fun line => !isSignOff line) ∘ trim = fun line => !isSignOff line :=
    funext fun line => congrArg not (isSignOff_trim line)
  rw [contentAfterSignOff?, List.dropWhile_map, List.find?_map, hsame]
  rfl

/-- Out of place is what stands below the first sign-off and is the first such line there. -/
theorem contentAfterSignOff?_eq_some_iff {text content : List Char} :
    contentAfterSignOff? text = some content ↔
      ∃ below line, IsBelow (lines text) below ∧ IsFirstOutOfPlace below line ∧
        trim line = content := by
  rw [contentAfterSignOff?_eq, Option.map_eq_some_iff]
  -- The sign-off itself is not out of place, so the search goes on below it.
  have hskip : ∀ {signOff : List Char} {below : List (List Char)}, IsSignOff signOff →
      (signOff :: below).find? (fun l => isOutOfPlace (trim l)) =
        below.find? fun l => isOutOfPlace (trim l) := fun hsignOff =>
    List.find?_cons_of_neg (mt isOutOfPlace_trim_iff.mp (not_isOutOfPlace_of_isSignOff hsignOff))
  constructor
  · rintro ⟨line, hfind, htrim⟩
    cases hdrop : (lines text).dropWhile (!isSignOff ·) with
    | nil => simp [hdrop] at hfind
    | cons signOff below =>
      have hsignOff : IsSignOff signOff := by
        have hhead := List.head?_dropWhile_not (!isSignOff ·) (lines text)
        rw [hdrop] at hhead
        simpa [isSignOff_iff] using hhead
      rw [hdrop, hskip hsignOff, find?_eq_some_iff_isFirstOutOfPlace] at hfind
      exact ⟨below, line, isBelow_iff.mpr ⟨signOff, hsignOff, hdrop⟩, hfind, htrim⟩
  · rintro ⟨below, line, hbelow, hfirst, htrim⟩
    obtain ⟨signOff, hsignOff, hdrop⟩ := isBelow_iff.mp hbelow
    refine ⟨line, ?_, htrim⟩
    rw [hdrop, hskip hsignOff, find?_eq_some_iff_isFirstOutOfPlace]
    exact hfirst

theorem reports_afterSignOffFindings_iff {text : List Char} {code : Code} :
    Reports (afterSignOffFindings text) code ↔
      code = .contentAfterSignoff ∧
        ∃ below, IsBelow (lines text) below ∧ ∃ line ∈ below, IsOutOfPlace line := by
  simp only [← exists_isFirstOutOfPlace_iff]
  rw [afterSignOffFindings]
  cases hcontent : contentAfterSignOff? text with
  | none =>
    refine iff_of_false reports_nil ?_
    rintro ⟨-, below, hbelow, line, hfirst⟩
    rw [contentAfterSignOff?_eq_some_iff.mpr ⟨below, line, hbelow, hfirst, rfl⟩] at hcontent
    cases hcontent
  | some content =>
    obtain ⟨below, line, hbelow, hfirst, -⟩ := contentAfterSignOff?_eq_some_iff.mp hcontent
    rw [reports_singleton, and_iff_left ⟨below, hbelow, line, hfirst⟩, eq_comm]

/-- Lines above the first sign-off are not looked at. -/
theorem contentAfterSignOff?_congr {text text' : List Char} {above above' rest : List (List Char)}
    (h : lines text = above ++ rest) (h' : lines text' = above' ++ rest)
    (hnone : ∀ line ∈ above ++ above', ¬IsSignOff line) :
    contentAfterSignOff? text' = contentAfterSignOff? text := by
  have hnone' : ∀ line ∈ above ++ above', !isSignOff line := by simpa [← isSignOff_iff] using hnone
  rw [List.forall_mem_append] at hnone'
  rw [contentAfterSignOff?_eq, contentAfterSignOff?_eq, h, h',
    List.dropWhile_append_of_pos hnone'.1, List.dropWhile_append_of_pos hnone'.2]

theorem countSignOffs_pos {text : List Char} {below : List (List Char)}
    (h : IsBelow (lines text) below) : 0 < countSignOffs text := by
  obtain ⟨above, signOff, heq, -, hsignOff⟩ := h
  rw [countSignOffs, List.countP_pos_iff]
  exact ⟨signOff, by simp [heq], isSignOff_iff.mpr hsignOff⟩

/-! ### What the rules report -/

section

variable {settings : Settings.Body} {c : Commit} (hc : c.isEmpty = false)

include hc

theorem findings_body :
    (body settings c).findings =
      blankLineFindings c.message.toList ++
        (if settings.required then requiredFindings settings c.body.toList else []) ++
        afterSignOffFindings c.body.toList := by
  rw [body, hc]
  rfl

theorem reports_body_iff {code : Code} :
    Reports (body settings c).findings code ↔
      (code = .missingBlankLine ∧ HasSecondLine c.message.toList) ∨
        (settings.required ∧ Lacks settings c.body.toList code) ∨
        (code = .contentAfterSignoff ∧
          ∃ below, IsBelow (lines c.body.toList) below ∧ ∃ line ∈ below, IsOutOfPlace line) := by
  have hrequired :
      Reports (if settings.required then requiredFindings settings c.body.toList else []) code ↔
        settings.required ∧ Lacks settings c.body.toList code := by
    split
    · rename_i hrequired
      rw [reports_requiredFindings_iff, and_iff_right hrequired]
    · rename_i hrequired
      exact iff_of_false reports_nil fun h => hrequired h.1
  rw [findings_body hc, reports_append, reports_append, reports_blankLineFindings_iff, hrequired,
    reports_afterSignOffFindings_iff, or_assoc]

theorem reports_missingBlankLine_iff :
    Reports (body settings c).findings .missingBlankLine ↔ HasSecondLine c.message.toList := by
  rw [reports_body_iff hc]
  refine ⟨fun h => ?_, fun h => .inl ⟨rfl, h⟩⟩
  rcases h with ⟨-, h⟩ | ⟨-, h⟩ | ⟨h, -⟩
  · exact h
  · cases h
  · cases h

theorem reports_iff_lacks {code : Code} (hcode : code ∈ lackCodes) :
    Reports (body settings c).findings code ↔
      settings.required ∧ Lacks settings c.body.toList code := by
  rw [reports_body_iff hc]
  refine ⟨fun h => ?_, fun h => .inr (.inl h)⟩
  rcases h with ⟨rfl, -⟩ | h | ⟨rfl, -⟩
  · simp [lackCodes] at hcode
  · exact h
  · simp [lackCodes] at hcode

theorem reports_contentAfterSignoff_iff :
    Reports (body settings c).findings .contentAfterSignoff ↔
      ∃ below, IsBelow (lines c.body.toList) below ∧ ∃ line ∈ below, IsOutOfPlace line := by
  rw [reports_body_iff hc]
  refine ⟨fun h => ?_, fun h => .inr (.inr ⟨rfl, h⟩)⟩
  rcases h with ⟨h, -⟩ | ⟨-, h⟩ | ⟨-, h⟩
  · cases h
  · cases h
  · exact h

/-- At most one thing is lacking. -/
theorem countP_findings_body_le :
    (body settings c).findings.countP (lackCodes.contains ·.code) ≤ 1 := by
  have hblank : (blankLineFindings c.message.toList).countP (lackCodes.contains ·.code) = 0 := by
    refine List.countP_eq_zero.mpr fun f hf => ?_
    rw [(reports_blankLineFindings_iff.mp ⟨f, hf, rfl⟩).1]
    decide
  have hafter : (afterSignOffFindings c.body.toList).countP (lackCodes.contains ·.code) = 0 := by
    refine List.countP_eq_zero.mpr fun f hf => ?_
    rw [(reports_afterSignOffFindings_iff.mp ⟨f, hf, rfl⟩).1]
    decide
  rw [findings_body hc, List.countP_append, List.countP_append, hblank, hafter, Nat.zero_add,
    Nat.add_zero]
  refine List.countP_le_length.trans ?_
  split
  · exact (oneOf_requiredFindings settings _).length_le
  · exact Nat.zero_le 1

/-- The findings with a code about content after a sign-off are those that are put together for
it. -/
theorem filter_findings_body :
    (body settings c).findings.filter (·.code == .contentAfterSignoff) =
      afterSignOffFindings c.body.toList := by
  have hblank : ∀ f ∈ blankLineFindings c.message.toList, f.code ≠ .contentAfterSignoff := by
    intro f hf hcode
    have hreports := reports_blankLineFindings_iff.mp ⟨f, hf, hcode⟩
    cases hreports.1
  have hrequired :
      ∀ f ∈ (if settings.required then requiredFindings settings c.body.toList else []),
        f.code ≠ .contentAfterSignoff := by
    intro f hf hcode
    split at hf
    · cases reports_requiredFindings_iff.mp ⟨f, hf, hcode⟩
    · exact List.not_mem_nil hf
  have hafter : ∀ f ∈ afterSignOffFindings c.body.toList, f.code = .contentAfterSignoff :=
    fun f hf => (reports_afterSignOffFindings_iff.mp ⟨f, hf, rfl⟩).1
  rw [findings_body hc, List.filter_append, List.filter_append,
    List.filter_eq_nil_iff.mpr (by simpa using hblank),
    List.filter_eq_nil_iff.mpr (by simpa using hrequired), List.nil_append, List.nil_append,
    List.filter_eq_self.mpr (by simpa using hafter)]

/-- Content after a sign-off is shown by its first line. -/
theorem context_contentAfterSignoff {f : Finding} (hf : f ∈ (body settings c).findings)
    (hcode : f.code = .contentAfterSignoff) :
    ∃ below line, IsBelow (lines c.body.toList) below ∧ IsFirstOutOfPlace below line ∧
      f.context = .ofList [("actual", .ofList (trim line))] := by
  have hafter : f ∈ afterSignOffFindings c.body.toList := by
    rw [← filter_findings_body hc, List.mem_filter]
    exact ⟨hf, by rw [hcode]; rfl⟩
  rw [afterSignOffFindings] at hafter
  cases hcontent : contentAfterSignOff? c.body.toList with
  | none =>
    rw [hcontent] at hafter
    exact absurd hafter List.not_mem_nil
  | some content =>
    rw [hcontent] at hafter
    obtain ⟨below, line, hbelow, hfirst, rfl⟩ := contentAfterSignOff?_eq_some_iff.mp hcontent
    exact ⟨below, line, hbelow, hfirst, by rw [List.mem_singleton.mp hafter]⟩

/-- Where there is content after a sign-off, the rule on sign-offs counts at least one. -/
theorem signOff_of_reports_contentAfterSignoff
    (h : Reports (body settings c).findings .contentAfterSignoff)
    (signOffSettings : Settings.SignOff) :
    (∃ count, 0 < count ∧
        (signOff signOffSettings c).details = .ofList [("signoff_count", toString count)]) ∧
      ¬Reports (signOff signOffSettings c).findings .missingSignoff ∧
      ¬Reports (signOff signOffSettings c).findings .invalidSignoffFormat := by
  obtain ⟨below, hbelow, -⟩ := (reports_contentAfterSignoff_iff hc).mp h
  have hpos : 0 < countSignOffs c.body.toList := countSignOffs_pos hbelow
  have hcodes : ∀ f ∈ (signOff signOffSettings c).findings, f.code = .multipleSignoffs := by
    intro f hf
    simp only [signOff, signOffFindings, if_neg hpos.ne'] at hf
    split at hf
    · rw [List.mem_singleton.mp hf]
    · exact absurd hf List.not_mem_nil
  refine ⟨⟨_, hpos, rfl⟩, ?_, ?_⟩
  · rintro ⟨f, hf, hcode⟩
    cases (hcodes f hf).symm.trans hcode
  · rintro ⟨f, hf, hcode⟩
    cases (hcodes f hf).symm.trans hcode

end

/-- Of a commit with visible text, the rule on bodies reports

* a missing blank line if and only if the second line is not blank, that is, if there is a body that
  begins on it,
* what a required body lacks, which is one thing at most, and
* content after a sign-off if and only if some line below the first sign-off is out of place, and
  then it shows the first such line.

The last is the same for any lines above the first sign-off. Where it is reported, the rule on
sign-offs counts at least one, so it calls none missing and none malformed. -/
theorem body_exact (settings : Settings.Body) (c : Commit) (hc : c.isEmpty = false) :
    let message := c.message.toList
    let text := c.body.toList
    let findings := (body settings c).findings
    (Reports findings .missingBlankLine ↔ HasSecondLine message) ∧
      (HasSecondLine message ↔ text ≠ [] ∧ text = trimEnd (unlines (lines message).tail)) ∧
      (∀ code ∈ lackCodes, Reports findings code ↔ settings.required ∧ Lacks settings text code) ∧
      findings.countP (lackCodes.contains ·.code) ≤ 1 ∧
      (Reports findings .contentAfterSignoff ↔
        ∃ below, IsBelow (lines text) below ∧ ∃ line ∈ below, IsOutOfPlace line) ∧
      (∀ f ∈ findings, f.code = .contentAfterSignoff →
        ∃ below line, IsBelow (lines text) below ∧ IsFirstOutOfPlace below line ∧
          f.context = .ofList [("actual", .ofList (trim line))]) ∧
      (∀ (settings' : Settings.Body) (c' : Commit) (above above' rest : List (List Char)),
        c'.isEmpty = false → lines text = above ++ rest → lines c'.body.toList = above' ++ rest →
        (∀ line ∈ above ++ above', ¬IsSignOff line) →
        (body settings' c').findings.filter (·.code == .contentAfterSignoff) =
          findings.filter (·.code == .contentAfterSignoff)) ∧
      (Reports findings .contentAfterSignoff →
        ∀ signOffSettings : Settings.SignOff,
          let outcome := signOff signOffSettings c
          (∃ count, 0 < count ∧ outcome.details = .ofList [("signoff_count", toString count)]) ∧
            ¬Reports outcome.findings .missingSignoff ∧
            ¬Reports outcome.findings .invalidSignoffFormat) := by
  intro message text findings
  refine ⟨reports_missingBlankLine_iff hc, ?_, fun code hcode => reports_iff_lacks hc hcode,
    countP_findings_body_le hc, reports_contentAfterSignoff_iff hc,
    fun f hf hcode => context_contentAfterSignoff hc hf hcode, ?_,
    signOff_of_reports_contentAfterSignoff hc⟩
  · have htext : text = Message.body message := String.toList_ofList
    rw [htext]
    exact hasSecondLine_iff_body
  · intro settings' c' above above' rest hc' h h' hnone
    rw [filter_findings_body hc, filter_findings_body hc', afterSignOffFindings,
      afterSignOffFindings, contentAfterSignOff?_congr h h' hnone]

/-- A commit with a sign-off in the middle of its body. -/
theorem body_exact_sign_off_in_the_middle :
    let c : Commit :=
      { message := "fix: a\n\nWhy.\nSigned-off-by: A B <a@b>\nCloses: #1\n\n  So.\nAnd so.\n" }
    ¬Reports (body {} c).findings .missingBlankLine ∧
      Reports (body {} c).findings .contentAfterSignoff ∧
      ¬Reports (signOff {} c).findings .missingSignoff := by
  intro c
  obtain ⟨hblank, -, -, -, hcontent, -, -, hsignOff⟩ := body_exact {} c (by decide)
  have hbelow : IsBelow (lines c.body.toList)
      ["Closes: #1".toList, [], "  So.".toList, "And so.".toList] :=
    ⟨["Why.".toList], "Signed-off-by: A B <a@b>".toList, by decide +kernel,
      by simp [← isSignOff_iff]; decide, isSignOff_iff.mp (by decide)⟩
  have hreports := hcontent.mpr ⟨_, hbelow, "  So.".toList, by simp,
    isOutOfPlace_trim_iff.mp (by decide)⟩
  refine ⟨?_, hreports, (hsignOff hreports {}).2.1⟩
  rw [hblank, hasSecondLine_iff]
  decide

end CommitLint.Check
