import CommitLint.Proofs.Check.Issue
import CommitLint.Proofs.Fields
import CommitLint.Proofs.Trailer

/-!
# References to issues in bodies

Of the lines of a body the first one counts that starts with `Refs:` (`IsFirstRefs`). What stands
above it matters only as far as it looks like a sign-off, and what stands below it not at all. The
line lists keys between commas, with nothing but blanks around each (`ListsKeys`).

The list is trimmed before it is cut at its commas, and so is every piece. Since a comma is no
blank, blanks around the list are blanks around its first and its last piece, so the pieces are what
they would be without the first trimming (`map_trim_pieces_trim`).
-/

namespace CommitLint.Check

open Text Trailer IssueKey

/-! ### Lists of keys -/

/-- Blanks around a text are blanks around its pieces. -/
theorem map_trim_pieces_append {sep : Char} (hsep : isBlank sep = false) {start ending : List Char}
    (hstart : isBlankText start) (hending : isBlankText ending) (s : List Char) :
    (pieces sep (start ++ s ++ ending)).map trim = (pieces sep s).map trim := by
  have hplain := notMem_of_isBlankText hsep hstart
  have hplain' := notMem_of_isBlankText hsep hending
  induction s using pieceInduction sep generalizing start with
  | last s hs =>
    rw [pieces_of_notMem hs, pieces_of_notMem (by simp [hs, hplain, hplain']), List.map_singleton,
      List.map_singleton, trim_append_of_isBlankText hending,
      trim_append_of_isBlankText_left hstart]
  | cons p s hp ih =>
    have hrest := @ih [] rfl List.not_mem_nil
    rw [List.nil_append] at hrest
    rw [← List.append_assoc, List.append_assoc, List.cons_append,
      pieces_append (by simp [hp, hplain]), pieces_append hp, List.map_cons, List.map_cons,
      trim_append_of_isBlankText_left hstart, hrest]

theorem map_trim_pieces_trim {sep : Char} (hsep : isBlank sep = false) (s : List Char) :
    (pieces sep (trim s)).map trim = (pieces sep s).map trim := by
  obtain ⟨start, ending, heq, hstart, hending⟩ := exists_eq_append_trim_append s
  exact ((congrArg (fun s => (pieces sep s).map trim) heq).trans
    (map_trim_pieces_append hsep hstart hending (trim s))).symm

/-- Texts that a list is cut into at its commas. -/
def ArePieces (listed : List Char) (ps : List (List Char)) : Prop :=
  ps ≠ [] ∧ (∀ p ∈ ps, ',' ∉ p) ∧ listed = joinWith [','] ps

theorem arePieces_iff {listed : List Char} {ps : List (List Char)} :
    ArePieces listed ps ↔ pieces ',' listed = ps := by
  constructor
  · rintro ⟨hne, hplain, rfl⟩
    exact pieces_joinWith hne hplain
  · rintro rfl
    exact ⟨pieces_ne_nil ',' listed, fun p hp => notMem_of_mem_pieces hp,
      (joinWith_pieces ',' listed).symm⟩

/-- A list holds some keys, blanks around each of them aside, and nothing else. -/
def ListsKeys (listed : List Char) (keys : List (List Char)) : Prop :=
  ∃ ps, ArePieces listed ps ∧ ps.map trim = keys ∧ ∀ key ∈ keys, IsKeyText key

theorem listsKeys_iff {listed : List Char} {keys : List (List Char)} :
    ListsKeys listed keys ↔ (pieces ',' listed).map trim = keys ∧ ∀ key ∈ keys, IsKeyText key := by
  simp only [ListsKeys, arePieces_iff, exists_eq_left']

/-! ### The line of references -/

/-- The first line of references among some lines: what stands above it, and what it says behind
its start. -/
def IsFirstRefs (ls above : List (List Char)) (listed : List Char) : Prop :=
  ∃ line below, ls = above ++ line :: below ∧ (∀ l ∈ above, ¬refsStart <+: trim l) ∧
    trim line = refsStart ++ listed

theorem exists_isFirstRefs {ls : List (List Char)} (h : ∃ line ∈ ls, refsStart <+: trim line) :
    ∃ above listed, IsFirstRefs ls above listed := by
  obtain ⟨line, hline, hstart⟩ := h
  have hfound : (ls.find? fun l => startsWith refsStart (trim l)).isSome :=
    List.find?_isSome.mpr ⟨line, hline, startsWith_iff.mpr hstart⟩
  obtain ⟨first, hfirst⟩ := Option.isSome_iff_exists.mp hfound
  obtain ⟨hfirst, above, below, heq, habove⟩ := List.find?_eq_some_iff_append.mp hfirst
  obtain ⟨listed, hlisted⟩ := startsWith_iff.mp hfirst
  refine ⟨above, listed, first, below, heq, fun l hl hl' => ?_, hlisted.symm⟩
  simpa [startsWith_iff.mpr hl'] using habove l hl

section

variable {ls above : List (List Char)} {listed : List Char} (h : IsFirstRefs ls above listed)

include h

theorem IsFirstRefs.exists_mem : ∃ line ∈ ls, refsStart <+: trim line := by
  obtain ⟨line, below, rfl, -, hline⟩ := h
  exact ⟨line, by simp, hline ▸ List.prefix_append _ _⟩

/-- Above the line of references no line starts as it does. -/
theorem IsFirstRefs.map_trim_eq :
    ∃ below, ls.map trim = above.map trim ++ (refsStart ++ listed) :: below ∧
      ∀ t ∈ above.map trim, startsWith refsStart t = false := by
  obtain ⟨line, below, rfl, habove, hline⟩ := h
  refine ⟨below.map trim, by simp [hline], List.forall_mem_map.mpr fun l hl => ?_⟩
  exact Bool.eq_false_iff.mpr (mt startsWith_iff.mp (habove l hl))

theorem IsFirstRefs.find?_map_trim :
    (ls.map trim).find? (startsWith refsStart ·) = some (refsStart ++ listed) := by
  obtain ⟨below, heq, habove⟩ := h.map_trim_eq
  refine List.find?_eq_some_iff_append.mpr
    ⟨startsWith_iff.mpr (List.prefix_append _ _), _, below, heq, fun t ht => ?_⟩
  rw [habove t ht]
  rfl

theorem IsFirstRefs.signOffPrecedesRefs_iff :
    signOffPrecedesRefs (ls.map trim) = true ↔ ∃ line ∈ above, IsAttempt line := by
  obtain ⟨below, heq, habove⟩ := h.map_trim_eq
  have hstart : startsWith refsStart (refsStart ++ listed) = true :=
    startsWith_iff.mpr (List.prefix_append _ _)
  rw [signOffPrecedesRefs, heq, List.takeWhile_append_of_pos (by simpa using habove),
    List.takeWhile_cons_of_neg (by simp [hstart]), List.append_nil, List.any_eq_true]
  simp only [List.mem_map, exists_exists_and_eq_and, isSignOffAttempt_iff, isAttempt_trim_iff]

end

/-! ### Findings -/

/-- What a finding shows: its code, and the text that it points at. -/
def shown (f : Finding) : Code × Option String := (f.code, f.context.get? "actual")

section

variable {body listed : List Char} {above : List (List Char)}

theorem bodyKeys_of_forall_not (h : ∀ line ∈ lines body, ¬refsStart <+: trim line) :
    (bodyKeys body).1 = [] ∧ (bodyKeys body).2.map shown = [(.missingJira, none)] := by
  have hnone : ((lines body).map trim).find? (startsWith refsStart ·) = none := by
    refine List.find?_eq_none.mpr (List.forall_mem_map.mpr fun line hline => ?_)
    exact mt startsWith_iff.mp (h line hline)
  rw [bodyKeys]
  simp only [hnone]
  exact ⟨trivial, by decide⟩

theorem fst_bodyKeys (h : IsFirstRefs (lines body) above listed) :
    (bodyKeys body).1 = ((pieces ',' listed).map trim).filter (IsKeyText ·) := by
  have htrim : (pieces ',' (trim listed)).map trim = (pieces ',' listed).map trim :=
    map_trim_pieces_trim (by decide) listed
  rw [bodyKeys]
  simp only [h.find?_map_trim, List.drop_left, refsKeys, htrim]
  refine List.filter_congr fun key _ => ?_
  rw [Bool.eq_iff_iff, decide_eq_true_eq, isKey_iff]

theorem map_shown_snd_bodyKeys (h : IsFirstRefs (lines body) above listed) :
    (bodyKeys body).2.map shown =
      (if ∃ line ∈ above, IsAttempt line then [(.refsAfterSignoff, none)] else []) ++
        if ∀ p ∈ pieces ',' listed, IsKeyText (trim p) then []
        else [(.invalidRefsFormat, some (.ofList (refsStart ++ listed)))] := by
  have htrim : (pieces ',' (trim listed)).map trim = (pieces ',' listed).map trim :=
    map_trim_pieces_trim (by decide) listed
  have hall : ((pieces ',' listed).map trim).all isKey = true ↔
      ∀ p ∈ pieces ',' listed, IsKeyText (trim p) := by
    rw [List.all_eq_true, List.forall_mem_map]
    exact forall₂_congr fun p _ => isKey_iff
  rw [bodyKeys]
  simp only [h.find?_map_trim, List.drop_left, refsKeys, htrim, h.signOffPrecedesRefs_iff, hall,
    List.map_append]
  congr 1
  · split <;> rfl
  · split <;> rfl

/-- What stands below the line of references says nothing. -/
theorem bodyKeys_congr {body' : List Char} (h : IsFirstRefs (lines body) above listed)
    (h' : IsFirstRefs (lines body') above listed) : bodyKeys body = bodyKeys body' := by
  have horder : signOffPrecedesRefs ((lines body).map trim) =
      signOffPrecedesRefs ((lines body').map trim) := by
    rw [Bool.eq_iff_iff, h.signOffPrecedesRefs_iff, h'.signOffPrecedesRefs_iff]
  rw [bodyKeys, bodyKeys]
  simp only [h.find?_map_trim, h'.find?_map_trim, refsKeys, horder]

end

/-- The outcome for a commit with visible text, when the rule looks at bodies. -/
theorem issue_eq_of_checkBody {settings : Settings.Jira} {c : Commit}
    (hmode : settings.checkBody = true) (hc : c.isEmpty = false) :
    issue settings c =
      { rule := .jiraReference
        details :=
          .ofList
            [("mode", "body"),
              ("found_keys", commaList ", " ((bodyKeys c.body.toList).1.map String.ofList))]
        findings := (bodyKeys c.body.toList).2 ++
          projectFindings (allowedProjects settings) (bodyKeys c.body.toList).1 } := by
  rw [issue, hc, hmode]
  simp only [Bool.false_eq_true, if_false, if_true, keysOutcome, hmode]

theorem map_shown_disallowedProject (allowed keys : List (List Char)) :
    (keys.map (disallowedProject allowed)).map shown =
      keys.map fun key => (.invalidProject, some (.ofList key)) := by
  rw [List.map_map]
  refine List.map_congr_left fun key _ => ?_
  rw [Function.comp_apply, shown, disallowedProject, Fields.get?_ofList]
  rfl

section

variable {settings : Settings.Jira} {c : Commit} {above ps : List (List Char)} {listed : List Char}

theorem map_shown_findings_issue (hmode : settings.checkBody = true) (hc : c.isEmpty = false)
    (h : IsFirstRefs (lines c.body.toList) above listed) (hps : ArePieces listed ps) :
    (issue settings c).findings.map shown =
      (if ∃ line ∈ above, IsAttempt line then [(.refsAfterSignoff, none)] else []) ++
      (if ∀ p ∈ ps, IsKeyText (trim p) then []
        else [(.invalidRefsFormat, some (.ofList (refsStart ++ listed)))]) ++
      ((ps.map trim).filter fun key => IsKeyText key ∧ ¬IsAllowed settings key).map
        fun key => (.invalidProject, some (.ofList key)) := by
  have hkeys : ∀ key ∈ (ps.map trim).filter (IsKeyText ·), IsKeyText key := fun key hkey =>
    of_decide_eq_true (List.mem_filter.mp hkey).2
  have hboth : ((ps.map trim).filter (IsKeyText ·)).filter (¬IsAllowed settings ·) =
      (ps.map trim).filter fun key => IsKeyText key ∧ ¬IsAllowed settings key := by
    rw [List.filter_filter]
    refine List.filter_congr fun key _ => ?_
    rw [Bool.and_comm, Bool.decide_and]
  rw [issue_eq_of_checkBody hmode hc, List.map_append, map_shown_snd_bodyKeys h, fst_bodyKeys h,
    arePieces_iff.mp hps, projectFindings_eq hkeys, hboth, map_shown_disallowedProject]

theorem passed_issue_iff (hmode : settings.checkBody = true) (hc : c.isEmpty = false)
    (h : IsFirstRefs (lines c.body.toList) above listed) (hps : ArePieces listed ps) :
    (issue settings c).passed ↔ (∀ line ∈ above, ¬IsAttempt line) ∧
      (∀ key ∈ ps.map trim, IsKeyText key) ∧ ∀ key ∈ ps.map trim, IsAllowed settings key := by
  have hprojects : (∀ p ∈ ps, IsKeyText (trim p)) →
      (((ps.map trim).filter fun key => IsKeyText key ∧ ¬IsAllowed settings key) = [] ↔
        ∀ key ∈ ps.map trim, IsAllowed settings key) := fun hkeys => by
    rw [List.filter_eq_nil_iff]
    refine forall₂_congr fun key hkey => ?_
    have hkeyText := List.forall_mem_map.mpr hkeys key hkey
    rw [decide_eq_true_eq, not_and, not_not, imp_iff_right hkeyText]
  have hempty {P : Prop} [Decidable P] {x : Code × Option String} :
      (if P then [] else [x]) = [] ↔ P := by simp
  rw [Outcome.passed, List.isEmpty_iff, ← List.map_eq_nil_iff (f := shown),
    map_shown_findings_issue hmode hc h hps, List.append_assoc, List.append_eq_nil_iff,
    List.append_eq_nil_iff, ← ite_not, hempty, hempty, List.map_eq_nil_iff, List.forall_mem_map,
    and_congr_right hprojects]
  push Not
  rfl

end

/-- A rule that looks at bodies passes if and only if there is a line of references, no line above
the first one looks like a sign-off, and it lists keys of allowed projects and nothing else; these
keys are what the rule has found. Otherwise what is wrong is reported in that order. Only the lines
up to the first line of references matter. -/
theorem references_exact (settings : Settings.Jira) (c : Commit)
    (hmode : settings.checkBody = true) (hc : c.isEmpty = false) :
    let ls := lines c.body.toList
    let outcome := issue settings c
    (outcome.passed ↔ ∃ above listed keys, IsFirstRefs ls above listed ∧
      (∀ line ∈ above, ¬IsAttempt line) ∧ ListsKeys listed keys ∧
      ∀ key ∈ keys, IsAllowed settings key) ∧
    (∀ above listed keys, IsFirstRefs ls above listed → ListsKeys listed keys →
      outcome.details =
        .ofList [("mode", "body"), ("found_keys", commaList ", " (keys.map String.ofList))]) ∧
    ((∀ line ∈ ls, ¬refsStart <+: trim line) →
      outcome.findings.map shown = [(.missingJira, none)]) ∧
    ((∃ line ∈ ls, refsStart <+: trim line) ↔
      ∃ above listed ps, IsFirstRefs ls above listed ∧ ArePieces listed ps) ∧
    (∀ above listed ps, IsFirstRefs ls above listed → ArePieces listed ps →
      outcome.findings.map shown =
        (if ∃ line ∈ above, IsAttempt line then [(.refsAfterSignoff, none)] else []) ++
        (if ∀ p ∈ ps, IsKeyText (trim p) then []
          else [(.invalidRefsFormat, some (.ofList (refsStart ++ listed)))]) ++
        ((ps.map trim).filter fun key => IsKeyText key ∧ ¬IsAllowed settings key).map
          fun key => (.invalidProject, some (.ofList key))) ∧
    (∀ c' : Commit, c'.isEmpty = false → c'.body = c.body → issue settings c' = outcome) ∧
    ∀ (c' : Commit) (above listed), c'.isEmpty = false → IsFirstRefs ls above listed →
      IsFirstRefs (lines c'.body.toList) above listed → issue settings c' = outcome := by
  intro ls outcome
  have hpieces : ∀ listed, ArePieces listed (pieces ',' listed) := fun listed =>
    arePieces_iff.mpr rfl
  have hmissing : (∀ line ∈ ls, ¬refsStart <+: trim line) →
      outcome.findings.map shown = [(.missingJira, none)] := fun hnone => by
    obtain ⟨hkeys, hshown⟩ := bodyKeys_of_forall_not hnone
    simp only [outcome]
    rw [issue_eq_of_checkBody hmode hc, hkeys, projectFindings_eq (List.forall_mem_nil _),
      List.filter_nil, List.map_nil, List.append_nil, hshown]
  refine ⟨⟨fun hpassed => ?_, ?_⟩, fun above listed keys h hkeys => ?_, hmissing,
    ⟨fun hrefs => ?_, fun ⟨above, listed, ps, h, _⟩ => h.exists_mem⟩,
    fun above listed ps => map_shown_findings_issue hmode hc, fun c' hc' hbody => ?_,
    fun c' above listed hc' h h' => ?_⟩
  · have hrefs : ∃ line ∈ ls, refsStart <+: trim line := by
      by_contra hnone
      push Not at hnone
      have hshown := hmissing hnone
      rw [List.isEmpty_iff.mp hpassed] at hshown
      cases hshown
    obtain ⟨above, listed, h⟩ := exists_isFirstRefs hrefs
    obtain ⟨habove, hkeys, hallowed⟩ := (passed_issue_iff hmode hc h (hpieces listed)).mp hpassed
    exact ⟨above, listed, _, h, habove, ⟨_, hpieces listed, rfl, hkeys⟩, hallowed⟩
  · rintro ⟨above, listed, keys, h, habove, ⟨ps, hps, rfl, hkeys⟩, hallowed⟩
    exact (passed_issue_iff hmode hc h hps).mpr ⟨habove, hkeys, hallowed⟩
  · obtain ⟨hlisted, hkeyText⟩ := listsKeys_iff.mp hkeys
    have hall : keys.filter (IsKeyText ·) = keys :=
      List.filter_eq_self.mpr fun key hkey => decide_eq_true (hkeyText key hkey)
    simp only [outcome]
    rw [issue_eq_of_checkBody hmode hc, fst_bodyKeys h, hlisted, hall]
  · obtain ⟨above, listed, h⟩ := exists_isFirstRefs hrefs
    exact ⟨above, listed, _, h, hpieces listed⟩
  · simp only [outcome]
    rw [issue_eq_of_checkBody hmode hc, issue_eq_of_checkBody hmode hc', hbody]
  · simp only [outcome]
    rw [issue_eq_of_checkBody hmode hc, issue_eq_of_checkBody hmode hc', bodyKeys_congr h h']

/-- Two keys with blanks around them, on the first of two lines of references, above a sign-off. -/
theorem references_exact_two_lines :
    let settings : Settings.Jira := { projects := [" ab ", "C"], checkBody := true }
    let c : Commit :=
      { message := "D-1\n\nText\n\tRefs:AB-1 ,  C-23\nSigned-off-by: E\nRefs: no key\n" }
    (issue settings c).passed ∧
      (issue settings c).details = .ofList [("mode", "body"), ("found_keys", "AB-1, C-23")] := by
  intro settings c
  obtain ⟨hpassed, hdetails, -⟩ := references_exact settings c rfl (by decide)
  have hrefs : IsFirstRefs (lines c.body.toList) ["Text".toList] "AB-1 ,  C-23".toList :=
    ⟨"\tRefs:AB-1 ,  C-23".toList, ["Signed-off-by: E".toList, "Refs: no key".toList],
      by decide +kernel, by decide, by decide⟩
  have hkeys : ListsKeys "AB-1 ,  C-23".toList ["AB-1".toList, "C-23".toList] :=
    listsKeys_iff.mpr (by decide)
  exact ⟨hpassed.mpr ⟨_, _, _, hrefs, by decide, hkeys, by decide +kernel⟩,
    hdetails _ _ _ hrefs hkeys⟩

end CommitLint.Check
