import CommitLint.Proofs.Check.Conventional
import CommitLint.Proofs.Check.Family
import CommitLint.Proofs.Fields
import CommitLint.Proofs.Text.Find

/-!
# Spaces after the colon

The spacing check looks at a line on its own, whether or not the line was read as a conventional
subject. It finds something to look at if the line is cut at its first colon between a head and a
visible text (`SpacedLine`). Its notion of a head is wider than that of the grammar: the text in
parentheses may hold a carriage return. That is all the difference there is, so a line with a head
without carriage returns is conventional as soon as one space follows the colon
(`SpacedLine.isSome_parse?_iff`), and the number of spaces tells which findings come together.
-/

namespace CommitLint.Check

open Text Subject

/-- A line that is cut at its first colon between a head and a visible text, with some spaces
before the text. -/
structure SpacedLine (line : List Char) where
  head : List Char
  spaces : Nat
  text : List Char
  eq : line = head ++ ':' :: (List.replicate spaces ' ' ++ text)
  colon_notMem_head : ':' ∉ head
  isHead_head : IsHead head
  text_start : text.head? ≠ some ' '
  text_visible : ¬isBlankText text

section

variable {line : List Char}

theorem SpacedLine.cutAt_eq (l : SpacedLine line) :
    cutAt ':' line = some (l.head, List.replicate l.spaces ' ' ++ l.text) :=
  cutAt_eq_some_iff.mpr ⟨l.eq, l.colon_notMem_head⟩

theorem SpacedLine.takeWhile_eq (l : SpacedLine line) :
    (List.replicate l.spaces ' ' ++ l.text).takeWhile (· == ' ') = List.replicate l.spaces ' ' := by
  rw [List.takeWhile_append_of_pos (by simp), takeWhile_space_eq_nil l.text_start,
    List.append_nil]

theorem SpacedLine.not_isBlankText (l : SpacedLine line) :
    ¬isBlankText (List.replicate l.spaces ' ' ++ l.text) := by
  have hvisible := l.text_visible
  rw [isBlankText] at hvisible ⊢
  simp [List.all_append, hvisible]

/-- What the spacing check looks at is such a line. -/
theorem exists_spacedLine {head rest : List Char} (hcut : cutAt ':' line = some (head, rest))
    (hhead : looksLikeHead head) (hrest : ¬isBlankText rest) :
    ∃ l : SpacedLine line, l.spaces = (rest.takeWhile (· == ' ')).length := by
  obtain ⟨heq, hcolon⟩ := cutAt_eq_some_iff.mp hcut
  have hspaces : rest.takeWhile (· == ' ') =
      List.replicate (rest.takeWhile (· == ' ')).length ' ' :=
    List.eq_replicate_iff.mpr ⟨rfl, fun c hc => by simpa using List.mem_takeWhile_imp hc⟩
  refine ⟨⟨head, _, rest.dropWhile (· == ' '), ?_, hcolon, looksLikeHead_iff.mp hhead, ?_, ?_⟩, rfl⟩
  · rw [← hspaces, List.takeWhile_append_dropWhile, heq]
  · intro h
    have hstop := List.head?_dropWhile_not (· == ' ') rest
    rw [h] at hstop
    exact Bool.noConfusion hstop
  · rwa [isBlankText_dropWhile fun c hc => by rw [beq_iff_eq.mp hc]; decide]

/-- But for carriage returns in its head, a line with a space after the colon has a layout. -/
theorem SpacedLine.exists_layout (l : SpacedLine line) (hline : '\n' ∉ line)
    (hhead : '\r' ∉ l.head) (hspaces : 1 ≤ l.spaces) : ∃ m : Layout, m.text = line := by
  obtain ⟨type, inner, breaking, heq, htype, hinner⟩ := l.isHead_head
  obtain ⟨more, hmore⟩ := Nat.exists_eq_add_of_le' hspaces
  have hmem : ∀ c ∈ l.head, c ∈ line := fun c hc => l.eq ▸ List.mem_append_left _ hc
  have hinside : ∀ raw ∈ inner, ∀ c ∈ raw, c ∈ l.head := fun raw hraw c hc => by
    rw [heq, Option.mem_def.mp hraw]
    simp [scopeText, hc]
  have hrest : List.replicate l.spaces ' ' ++ l.text =
      ' ' :: (List.replicate more ' ' ++ l.text) := by
    rw [hmore, List.replicate_succ, List.cons_append]
  refine ⟨⟨type, inner, breaking, _, htype, fun raw hraw c hc => ?_, .inr ⟨_, hrest, fun h => ?_⟩⟩,
    ?_⟩
  · have hc' := hinside raw hraw c hc
    exact ⟨(hinner raw hraw c hc).1, (hinner raw hraw c hc).2,
      fun h => l.colon_notMem_head (h ▸ hc'), fun h => hhead (h ▸ hc'),
      fun h => hline (h ▸ hmem c hc')⟩
  · refine hline ?_
    rw [l.eq, hrest]
    simp [h]
  · rw [Layout.text, Layout.head, ← heq, ← l.eq]

/-- A line that is cut in this way is conventional if at least one space follows the colon, but
for carriage returns in its head. -/
theorem SpacedLine.isSome_parse?_iff (l : SpacedLine line) (hline : '\n' ∉ line)
    (hhead : '\r' ∉ l.head) : (parse? line).isSome ↔ 1 ≤ l.spaces := by
  rw [parse?_isSome_iff]
  refine ⟨?_, l.exists_layout hline hhead⟩
  rintro ⟨m, rfl⟩
  have hcut := m.cutAt_text.symm.trans l.cutAt_eq
  rw [Option.some.injEq, Prod.mk.injEq] at hcut
  refine Nat.one_le_iff_ne_zero.mpr fun hzero => ?_
  have hrest : m.rest = l.text := by
    rw [hcut.2, hzero, List.replicate_zero, List.nil_append]
  rcases m.rest_spaced with hnil | ⟨text, hspace, -⟩
  · exact l.text_visible (by rw [← hrest, hnil]; rfl)
  · exact l.text_start (by rw [← hrest, hspace]; rfl)

/-- There is one number of spaces. -/
theorem SpacedLine.spaces_eq (l m : SpacedLine line) : l.spaces = m.spaces := by
  have hcut := l.cutAt_eq.symm.trans m.cutAt_eq
  rw [Option.some.injEq, Prod.mk.injEq] at hcut
  have hspaces := l.takeWhile_eq.symm.trans (hcut.2 ▸ m.takeWhile_eq)
  simpa using congrArg List.length hspaces

/-! ### Findings -/

theorem reports_spacingFindings (l : SpacedLine line) (h : l.spaces ≠ 1) :
    Reports (spacingFindings line) .spacingError := by
  have hfine : ¬((!looksLikeHead l.head || isBlankText (List.replicate l.spaces ' ' ++ l.text) ||
      l.spaces == 1) = true) := by
    simp [looksLikeHead_iff.mpr l.isHead_head, l.not_isBlankText, h]
  rw [spacingFindings, l.cutAt_eq]
  simp only [l.takeWhile_eq, List.length_replicate, if_neg hfine]
  exact reports_singleton.mpr rfl

/-- What the spacing check finds is a wrong number of spaces. -/
theorem exists_of_mem_spacingFindings {f : Finding} (hf : f ∈ spacingFindings line) :
    f.code = .spacingError ∧ ∃ l : SpacedLine line, l.spaces ≠ 1 ∧
      f.context.get? "actual" = some (toString l.spaces) := by
  rw [spacingFindings] at hf
  split at hf
  · exact absurd hf List.not_mem_nil
  · rename_i head rest hcut
    dsimp only at hf
    split at hf
    · exact absurd hf List.not_mem_nil
    · rename_i hfault
      simp only [Bool.or_eq_true, not_or, Bool.not_eq_true', Bool.not_eq_false, beq_iff_eq]
        at hfault
      obtain ⟨l, hl⟩ := exists_spacedLine hcut hfault.1.1 hfault.1.2
      rw [List.mem_singleton.mp hf, wrongSpacing, Fields.get?_ofList, ← hl]
      exact ⟨rfl, l, hl ▸ hfault.2, rfl⟩

end

/-- The codes of what is wrong with the parts of a subject. -/
def partCodes : List Code :=
  [.invalidConventionalType, .invalidScopeFormat, .missingScope, .invalidConventionalScope,
    .breakingNotAllowed, .emptyDescription, .descriptionTooLong]

section

variable (settings : Settings.Conventional) (s : Subject)

theorem code_mem_partCodes_of_mem_scopeFindings :
    ∀ f ∈ scopeFindings settings s, f.code ∈ partCodes := by
  rw [scopeFindings, List.forall_mem_append, List.forall_mem_append]
  refine ⟨⟨?_, ?_⟩, ?_⟩
  · rw [scopeFormFindings]
    split
    · exact List.forall_mem_nil _
    · split
      · exact List.forall_mem_nil _
      · exact List.forall_mem_singleton.mpr (by simp [partCodes])
  · split
    · exact List.forall_mem_singleton.mpr (by simp [partCodes])
    · exact List.forall_mem_nil _
  · split
    · exact List.forall_mem_nil _
    · exact List.forall_mem_map.mpr fun scope _ => by simp [disallowedScope, partCodes]

theorem code_mem_partCodes :
    ∀ f ∈ typeFindings settings s ++ scopeFindings settings s ++ breakingFindings settings s ++
      descriptionFindings settings s, f.code ∈ partCodes := by
  rw [List.forall_mem_append, List.forall_mem_append, List.forall_mem_append]
  refine ⟨⟨⟨?_, code_mem_partCodes_of_mem_scopeFindings settings s⟩, ?_⟩, ?_⟩
  · rw [typeFindings]
    split
    · exact List.forall_mem_nil _
    · exact List.forall_mem_singleton.mpr (by simp [partCodes])
  · rw [breakingFindings]
    split
    · exact List.forall_mem_singleton.mpr (by simp [partCodes])
    · exact List.forall_mem_nil _
  · rw [descriptionFindings]
    split
    · exact List.forall_mem_singleton.mpr (by simp [partCodes])
    · split
      · exact List.forall_mem_nil _
      · exact List.forall_mem_singleton.mpr (by simp [partCodes])

end

section

variable {settings : Settings.Conventional} {c : Commit}

theorem findings_conventional_of_parse?_eq_some {s : Subject} (hc : c.isEmpty = false)
    (hs : parse? c.subject.toList = some s) :
    (conventional settings c).findings =
      typeFindings settings s ++ scopeFindings settings s ++ breakingFindings settings s ++
        descriptionFindings settings s ++ spacingFindings c.subject.toList := by
  rw [conventional, hc]
  simp only [Bool.false_eq_true, if_false, subjectOutcome, hs]

theorem findings_conventional_of_parse?_eq_none (hc : c.isEmpty = false)
    (hs : parse? c.subject.toList = none) :
    (conventional settings c).findings =
      notConventional c.subject :: spacingFindings c.subject.toList := by
  rw [conventional, hc]
  simp only [Bool.false_eq_true, if_false, subjectOutcome, hs]

/-- The findings of the spacing check come last, and no others are on spaces. -/
theorem exists_findings_conventional_eq (settings : Settings.Conventional)
    (hc : c.isEmpty = false) :
    ∃ others, (conventional settings c).findings = others ++ spacingFindings c.subject.toList ∧
      (∀ f ∈ others, f.code ≠ .spacingError) ∧
      (Reports others .invalidConventionalFormat ↔ parse? c.subject.toList = none) := by
  cases hs : parse? c.subject.toList with
  | none =>
    refine ⟨[notConventional c.subject], ?_, by simp [notConventional],
      iff_of_true (reports_singleton.mpr rfl) rfl⟩
    rw [findings_conventional_of_parse?_eq_none hc hs, List.singleton_append]
  | some s =>
    have hparts := code_mem_partCodes settings s
    refine ⟨_, findings_conventional_of_parse?_eq_some hc hs, fun f hf hcode => ?_,
      iff_of_false (fun ⟨f, hf, hcode⟩ => ?_) (by simp)⟩
    · exact absurd (hcode ▸ hparts f hf) (by decide)
    · exact absurd (hcode ▸ hparts f hf) (by decide)

/-- The findings on spaces are those of the spacing check. -/
theorem filter_findings_conventional (settings : Settings.Conventional) (hc : c.isEmpty = false) :
    (conventional settings c).findings.filter (·.code = .spacingError) =
      spacingFindings c.subject.toList := by
  obtain ⟨others, heq, hothers, -⟩ := exists_findings_conventional_eq settings hc
  have hnone : others.filter (·.code = .spacingError) = [] :=
    List.filter_eq_nil_iff.mpr fun f hf => by simp [hothers f hf]
  have hall : (spacingFindings c.subject.toList).filter (·.code = .spacingError) =
      spacingFindings c.subject.toList :=
    List.filter_eq_self.mpr fun f hf => by simp [(exists_of_mem_spacingFindings hf).1]
  rw [heq, List.filter_append, hnone, hall, List.nil_append]

theorem mem_spacingFindings_iff (hc : c.isEmpty = false) {f : Finding} :
    f ∈ spacingFindings c.subject.toList ↔
      f ∈ (conventional settings c).findings ∧ f.code = .spacingError := by
  rw [← filter_findings_conventional settings hc, List.mem_filter, decide_eq_true_eq]

theorem reports_invalidConventionalFormat_iff (hc : c.isEmpty = false) :
    Reports (conventional settings c).findings .invalidConventionalFormat ↔
      parse? c.subject.toList = none := by
  obtain ⟨others, heq, -, hformat⟩ := exists_findings_conventional_eq settings hc
  rw [heq, reports_append, hformat, or_iff_left]
  rintro ⟨f, hf, hcode⟩
  have hspacing := (exists_of_mem_spacingFindings hf).1
  rw [hcode] at hspacing
  cases hspacing

theorem reports_spacingError_iff (hc : c.isEmpty = false) :
    Reports (conventional settings c).findings .spacingError ↔
      ∃ l : SpacedLine c.subject.toList, l.spaces ≠ 1 := by
  constructor
  · rintro ⟨f, hf, hcode⟩
    obtain ⟨-, l, hl, -⟩ :=
      exists_of_mem_spacingFindings ((mem_spacingFindings_iff hc).mpr ⟨hf, hcode⟩)
    exact ⟨l, hl⟩
  · rintro ⟨l, hl⟩
    obtain ⟨f, hf, -⟩ := reports_spacingFindings l hl
    exact ⟨f, (mem_spacingFindings_iff hc).mp hf⟩

end

/-- The spaces after the colon are reported if and only if the subject is cut at its first colon
between a head and a visible text and does not have one space between them; the finding then tells
their number. But for carriage returns in the head, that number alone decides whether the subject is
also conventional: it is not if there is no space. A subject that is not has no further findings. -/
theorem spacing_exact (settings : Settings.Conventional) (c : Commit) (hc : c.isEmpty = false) :
    let subject := c.subject.toList
    let findings := (conventional settings c).findings
    (Reports findings .spacingError ↔ ∃ l : SpacedLine subject, l.spaces ≠ 1) ∧
    (∀ f ∈ findings, f.code = .spacingError → ∀ l : SpacedLine subject,
      f.context.get? "actual" = some (toString l.spaces)) ∧
    findings.countP (·.code = .spacingError) ≤ 1 ∧
    (∀ l : SpacedLine subject, '\r' ∉ l.head →
      ((parse? subject).isSome ↔ 1 ≤ l.spaces) ∧
      (Reports findings .spacingError ∧ Reports findings .invalidConventionalFormat ↔
        l.spaces = 0) ∧
      (Reports findings .spacingError ∧ (parse? subject).isSome ↔ 2 ≤ l.spaces)) ∧
    (parse? subject = none → ∃ spacing,
      findings = notConventional c.subject :: spacing ∧ spacing.length ≤ 1 ∧
        ∀ f ∈ spacing, f.code = .spacingError) := by
  intro subject findings
  refine ⟨reports_spacingError_iff hc, fun f hf hcode l => ?_, ?_, fun l hhead => ?_, fun hs => ?_⟩
  · obtain ⟨-, m, -, hactual⟩ :=
      exists_of_mem_spacingFindings ((mem_spacingFindings_iff hc).mpr ⟨hf, hcode⟩)
    rw [hactual, m.spaces_eq l]
  · have hfilter := filter_findings_conventional settings hc
    rw [List.countP_eq_length_filter, hfilter]
    exact (oneOf_spacingFindings subject).length_le
  · have hparse := l.isSome_parse?_iff c.lineFeed_notMem_subject hhead
    have hreports : Reports findings .spacingError ↔ l.spaces ≠ 1 :=
      (reports_spacingError_iff hc).trans
        ⟨fun ⟨m, hm⟩ => l.spaces_eq m ▸ hm, fun h => ⟨l, h⟩⟩
    have hnone : parse? subject = none ↔ l.spaces = 0 := by
      rw [← Option.not_isSome_iff_eq_none, hparse]
      omega
    rw [hreports, hparse, reports_invalidConventionalFormat_iff hc, hnone]
    omega
  · refine ⟨_, findings_conventional_of_parse?_eq_none hc hs,
      (oneOf_spacingFindings subject).length_le, fun f hf => (exists_of_mem_spacingFindings hf).1⟩

/-- Two spaces after a colon whose text in parentheses holds a blank, and none after one that a
scope with an exclamation mark precedes. -/
theorem spacing_exact_two_and_none :
    let settings : Settings.Conventional := {}
    let wide : Commit := { message := "feat(a b):  c: d" }
    let tight : Commit := { message := "fix(ui)!:e" }
    (Reports (conventional settings wide).findings .spacingError ∧
      (parse? wide.subject.toList).isSome) ∧
    Reports (conventional settings tight).findings .spacingError ∧
      Reports (conventional settings tight).findings .invalidConventionalFormat := by
  intro settings wide tight
  let w : SpacedLine wide.subject.toList :=
    { head := "feat(a b)".toList
      spaces := 2
      text := "c: d".toList
      eq := by decide
      colon_notMem_head := by decide
      isHead_head := looksLikeHead_iff.mp (by decide)
      text_start := by decide
      text_visible := by decide }
  let t : SpacedLine tight.subject.toList :=
    { head := "fix(ui)!".toList
      spaces := 0
      text := "e".toList
      eq := by decide
      colon_notMem_head := by decide
      isHead_head := looksLikeHead_iff.mp (by decide)
      text_start := by decide
      text_visible := by decide }
  obtain ⟨-, -, -, hwide, -⟩ := spacing_exact settings wide (by decide)
  obtain ⟨-, -, -, htight, -⟩ := spacing_exact settings tight (by decide)
  exact ⟨(hwide w (by decide)).2.2.mpr (Nat.le_refl 2), (htight t (by decide)).2.1.mpr rfl⟩

end CommitLint.Check
