import CommitLint.Check.Issue
import CommitLint.Proofs.IssueKey
import CommitLint.Proofs.Message
import CommitLint.Proofs.Text.Find
import CommitLint.Proofs.Text.Words

/-!
# References to issues in subjects

The keys of a subject are searched for in running text, but their place is judged by tokens: the
last one, without brackets or parentheses around it (`Unwraps`), has to be a key. The two notions
agree. What stands around a key in its token are no word characters, so a last token that is a key
is also found by the search, and nothing is found after it (`getLast?_find_of_lastWord`).

The projects of keys are compared with those that the settings list, without the blanks around them
and in upper case (`IsAllowed`).
-/

namespace CommitLint.Check

open Text IssueKey

/-! ### Tokens -/

/-- A token without the pair of brackets or parentheses around it, if there is one. -/
inductive Unwraps : List Char → List Char → Prop
  | brackets (inner : List Char) : Unwraps ('[' :: inner ++ [']']) inner
  | parens (inner : List Char) : Unwraps ('(' :: inner ++ [')']) inner
  | plain {token : List Char} :
    (∀ inner, token ≠ '[' :: inner ++ [']'] ∧ token ≠ '(' :: inner ++ [')']) → Unwraps token token

theorem stripped_eq_some_iff {opening closing : Char} {token inner : List Char} :
    (afterStart? [opening] token).bind (beforeEnd? [closing] ·) = some inner ↔
      token = opening :: inner ++ [closing] := by
  simp only [Option.bind_eq_some_iff, afterStart?_eq_some_iff, beforeEnd?_eq_some_iff]
  constructor
  · rintro ⟨rest, rfl, rfl⟩
    rfl
  · rintro rfl
    exact ⟨_, rfl, rfl⟩

theorem unwraps_iff {token inner : List Char} : Unwraps token inner ↔ unwrapped token = inner := by
  have hnone {opening closing : Char} {token : List Char}
      (h : ∀ inner, token ≠ opening :: inner ++ [closing]) :
      (afterStart? [opening] token).bind (beforeEnd? [closing] ·) = none :=
    Option.eq_none_iff_forall_ne_some.mpr fun inner => mt stripped_eq_some_iff.mp (h inner)
  constructor
  · intro h
    rw [unwrapped]
    cases h with
    | brackets inner => rw [stripped_eq_some_iff.mpr rfl]
    | parens inner => rw [hnone (by simp), stripped_eq_some_iff.mpr rfl]
    | plain h => rw [hnone fun inner => (h inner).1, hnone fun inner => (h inner).2]
  · rintro rfl
    rw [unwrapped]
    split
    · rename_i inner hbrackets
      rw [stripped_eq_some_iff.mp hbrackets]
      exact .brackets inner
    · rename_i hbrackets
      split
      · rename_i inner hparens
        rw [stripped_eq_some_iff.mp hparens]
        exact .parens inner
      · rename_i hparens
        refine .plain fun inner => ⟨fun h => ?_, fun h => ?_⟩
        · rw [stripped_eq_some_iff.mpr h] at hbrackets
          cases hbrackets
        · rw [stripped_eq_some_iff.mpr h] at hparens
          cases hparens

/-- What is taken away around a token are no word characters. -/
theorem Unwraps.exists_eq {token inner : List Char} (h : Unwraps token inner) :
    ∃ opening closing, token = opening ++ inner ++ closing ∧
      ∀ c ∈ opening ++ closing, isWordChar c = false := by
  have hpair : ∀ a b : Char, isWordChar a = false → isWordChar b = false →
      ∀ c ∈ [a] ++ [b], isWordChar c = false := fun a b ha hb =>
    List.forall_mem_cons.mpr ⟨ha, List.forall_mem_singleton.mpr hb⟩
  cases h with
  | brackets inner => exact ⟨['['], [']'], rfl, hpair _ _ (by decide) (by decide)⟩
  | parens inner => exact ⟨['('], [')'], rfl, hpair _ _ (by decide) (by decide)⟩
  | plain _ => exact ⟨[], [], by simp, by simp⟩

/-- A last token that is a key is the last key that is found. -/
theorem getLast?_find_of_lastWord {s before token after key : List Char}
    (hlast : IsLastWord s before token after) (hunwraps : Unwraps token key)
    (hkey : IsKeyText key) : (find s).getLast? = some key := by
  obtain ⟨opening, closing, rfl, hplain⟩ := hunwraps.exists_eq
  have hblank : ∀ c, isBlank c → isWordChar c = false := fun c hc =>
    Bool.eq_false_iff.mpr fun hword => by simp [isBlank_eq_false_of_isWordChar hword] at hc
  have hbefore : (before ++ opening).getLast?.any isWordChar = false := by
    rcases List.eq_nil_or_concat opening with rfl | ⟨more, c, rfl⟩
    · rcases hlast.before_blank with rfl | ⟨more, c, rfl, hc⟩
      · rfl
      · simp [hblank c hc]
    · simp [hplain c (by simp)]
  have hafter : ∀ c ∈ closing ++ after, isWordChar c = false := by
    intro c hc
    rcases List.mem_append.mp hc with hc | hc
    · exact hplain c (List.mem_append_right _ hc)
    · exact hblank c (List.all_eq_true.mp hlast.after_blank c hc)
  let o : KeyIn s :=
    { before := before ++ opening
      key := key
      after := closing ++ after
      eq := by simp [hlast.eq]
      isKeyText := hkey
      starts := (KeyIn.isBoundary_start_iff hkey).mpr hbefore
      ends := (KeyIn.isBoundary_end_iff hkey).mpr <| by
        cases hrest : closing ++ after with
        | nil => rfl
        | cons c more => simp [hafter c (by simp [hrest])] }
  refine getLast?_find o fun c hc => Bool.eq_false_iff.mpr fun hcapital => ?_
  have hword := hafter c hc
  rw [isWordChar_of_isCapitalAscii hcapital] at hword
  cases hword

theorem isKey_lastToken_iff {s : List Char} (hvisible : ¬isBlankText s) :
    isKey (unwrapped ((words s).getLastD [])) = true ↔
      ∃ before token after key, IsLastWord s before token after ∧ Unwraps token key ∧
        IsKeyText key := by
  have htoken : ∀ {before token after : List Char}, IsLastWord s before token after →
      (words s).getLastD [] = token := fun hlast => by
    rw [hlast.words_eq]
    simp
  rw [isKey_iff]
  constructor
  · intro hkey
    obtain ⟨before, token, after, hlast⟩ := exists_isLastWord hvisible
    rw [htoken hlast] at hkey
    exact ⟨before, token, after, _, hlast, unwraps_iff.mpr rfl, hkey⟩
  · rintro ⟨before, token, after, key, hlast, hunwraps, hkey⟩
    rwa [htoken hlast, unwraps_iff.mp hunwraps]

/-! ### Projects -/

/-- A key belongs to a project that the settings list, or they list none. -/
def IsAllowed (settings : Settings.Jira) (key : List Char) : Prop :=
  settings.projects = [] ∨ ∃ project number, key = project ++ '-' :: number ∧ '-' ∉ project ∧
    ∃ p ∈ settings.projects, upper (trim p.toList) = project

theorem mem_allowedProjects_iff {settings : Settings.Jira} {project : List Char} :
    project ∈ allowedProjects settings ↔ ∃ p ∈ settings.projects, upper (trim p.toList) = project :=
  List.mem_map

theorem isAllowed_iff {settings : Settings.Jira} {key : List Char} (hkey : IsKeyText key) :
    IsAllowed settings key ↔
      allowedProjects settings = [] ∨ project key ∈ allowedProjects settings := by
  have hnil : allowedProjects settings = [] ↔ settings.projects = [] := List.map_eq_nil_iff
  simp only [hkey.project_mem_iff, hnil, IsAllowed, mem_allowedProjects_iff]

instance (settings : Settings.Jira) : DecidablePred (IsAllowed settings) := fun key =>
  decidable_of_iff
    (settings.projects = [] ∨ ∃ cut ∈ cutAt '-' key, cut.1 ∈ allowedProjects settings) <| by
  simp only [IsAllowed, mem_allowedProjects_iff, Option.mem_def, Prod.exists, cutAt_eq_some_iff,
    and_assoc]

instance : DecidablePred IsKeyText := fun _ => decidable_of_iff _ isKey_iff

theorem projectFindings_eq {settings : Settings.Jira} {keys : List (List Char)}
    (hkeys : ∀ key ∈ keys, IsKeyText key) :
    projectFindings (allowedProjects settings) keys =
      (keys.filter (¬IsAllowed settings ·)).map (disallowedProject (allowedProjects settings)) := by
  rw [projectFindings]
  split
  · rename_i hempty
    have hnone : keys.filter (¬IsAllowed settings ·) = [] := by
      refine List.filter_eq_nil_iff.mpr fun key hkey => ?_
      simp [isAllowed_iff (hkeys key hkey), List.isEmpty_iff.mp hempty]
    rw [hnone, List.map_nil]
  · rename_i hempty
    refine congrArg _ (List.filter_congr fun key hkey => ?_)
    simp [isAllowed_iff (hkeys key hkey), mt List.isEmpty_iff.mpr hempty]

theorem projectFindings_eq_nil_iff {settings : Settings.Jira} {keys : List (List Char)}
    (hkeys : ∀ key ∈ keys, IsKeyText key) :
    projectFindings (allowedProjects settings) keys = [] ↔
      ∀ key ∈ keys, IsAllowed settings key := by
  rw [projectFindings_eq hkeys, List.map_eq_nil_iff, List.filter_eq_nil_iff]
  simp only [decide_eq_true_eq, not_not]

/-! ### Findings -/

theorem fst_subjectKeys (subject : List Char) : (subjectKeys subject).1 = find subject := by
  rw [subjectKeys]
  split
  · rename_i h
    rw [h]
  · rename_i h
    rw [h]

theorem snd_subjectKeys_eq_nil_iff {subject : List Char} :
    (subjectKeys subject).2 = [] ↔
      find subject ≠ [] ∧
        ((Subject.parse? subject).isSome → ∃ before token after key,
          IsLastWord subject before token after ∧ Unwraps token key ∧ IsKeyText key) := by
  rw [subjectKeys]
  cases hfind : find subject with
  | nil => simp
  | cons first more =>
    have hvisible : ¬isBlankText subject := fun hblank => by
      simp [find_eq_nil_of_isBlankText hblank] at hfind
    rw [and_iff_right (List.cons_ne_nil _ _), ← isKey_lastToken_iff hvisible]
    simp [isMisplaced]

/-- The outcome for a commit with visible text, when the rule looks at subjects. -/
theorem issue_eq {settings : Settings.Jira} {c : Commit} (hmode : settings.checkBody = false)
    (hc : c.isEmpty = false) :
    issue settings c =
      { rule := .jiraReference
        details :=
          .ofList
            [("mode", "subject"),
              ("found_keys", commaList ", " ((find c.subject.toList).map String.ofList))]
        findings := (subjectKeys c.subject.toList).2 ++
          projectFindings (allowedProjects settings) (find c.subject.toList) } := by
  rw [issue, hc, hmode]
  simp only [Bool.false_eq_true, if_false, fst_subjectKeys, keysOutcome, hmode]

/-- A rule that looks at subjects finds every key in a subject and nothing else, and passes if and
only if there is one, all their projects are allowed, and the last token of a conventional subject
is a key, which then is the last one found. -/
theorem issue_exact (settings : Settings.Jira) (c : Commit) (hmode : settings.checkBody = false) :
    let subject := c.subject.toList
    let found := find subject
    (∃ keys : List (KeyIn subject),
        found = keys.map KeyIn.key ∧ (∀ o, o ∈ keys) ∧ keys.Pairwise KeyIn.IsBefore) ∧
      (c.isEmpty = false →
        (issue settings c).details =
          .ofList
            [("mode", "subject"), ("found_keys", commaList ", " (found.map String.ofList))]) ∧
      ((issue settings c).passed ↔
        found ≠ [] ∧ (∀ key ∈ found, IsAllowed settings key) ∧
          ((Subject.parse? subject).isSome → ∃ before token after key,
            IsLastWord subject before token after ∧ Unwraps token key ∧ IsKeyText key)) ∧
      ∀ before token after key, IsLastWord subject before token after → Unwraps token key →
        IsKeyText key → found.getLast? = some key := by
  intro subject found
  refine ⟨find_exact subject, fun hc => by rw [issue_eq hmode hc], ?_,
    fun _ _ _ _ => getLast?_find_of_lastWord⟩
  cases hc : c.isEmpty with
  | true =>
    have hnone : found = [] := find_eq_nil_of_isBlankText <| Bool.of_not_eq_false fun hvisible =>
      Bool.false_ne_true ((Commit.isEmpty_eq_false hvisible).symm.trans hc)
    refine iff_of_false ?_ fun h => h.1 hnone
    rw [issue, hc]
    exact Bool.false_ne_true
  | false =>
    rw [issue_eq hmode hc, Outcome.passed, List.isEmpty_iff, List.append_eq_nil_iff,
      snd_subjectKeys_eq_nil_iff, projectFindings_eq_nil_iff fun key => isKeyText_of_mem_find,
      and_right_comm, and_assoc]

/-- A key in running text and one in brackets. -/
theorem issue_exact_bracketed :
    let settings : Settings.Jira := { projects := [" ab "] }
    let c : Commit := { message := "fix: follow AB-1 [AB-12]\n\nC-3.\n" }
    (issue settings c).passed ∧ (find c.subject.toList).getLast? = some "AB-12".toList := by
  intro settings c
  obtain ⟨-, -, hpassed, hlastKey⟩ := issue_exact settings c rfl
  have hlast : IsLastWord c.subject.toList "fix: follow AB-1 ".toList "[AB-12]".toList [] :=
    { eq := by decide +kernel
      ne_nil := by decide
      plain := by simp; decide
      before_blank := .inr ⟨"fix: follow AB-1".toList, ' ', by decide, by decide⟩
      after_blank := rfl }
  have hunwraps : Unwraps "[AB-12]".toList "AB-12".toList := unwraps_iff.mpr (by decide)
  have hkey : IsKeyText "AB-12".toList := isKey_iff.mp (by decide)
  refine ⟨hpassed.mpr ⟨?_, ?_, fun _ => ⟨_, _, _, _, hlast, hunwraps, hkey⟩⟩,
    hlastKey _ _ _ _ hlast hunwraps hkey⟩
  · decide +kernel
  · have hfound : find c.subject.toList = ["AB-1".toList, "AB-12".toList] := by decide +kernel
    have hlisted : ∃ p ∈ settings.projects, upper (trim p.toList) = "AB".toList :=
      ⟨" ab ", by decide, by decide +kernel⟩
    rw [hfound, List.forall_mem_cons, List.forall_mem_singleton]
    exact ⟨.inr ⟨"AB".toList, ['1'], by decide, by decide, hlisted⟩,
      .inr ⟨"AB".toList, ['1', '2'], by decide, by decide, hlisted⟩⟩

end CommitLint.Check
