import CommitLint.Check.Mood
import CommitLint.Proofs.Subject.Grammar
import CommitLint.Proofs.Text.Find
import CommitLint.Proofs.Text.Words

/-!
# The mood of the first word

What is wrong with the mood of a word is told by the lists that it is in and by its ending
(`IsFault`). A word has at most one of the endings (`Ending.IsOn.unique`), so an exception for the
one ending never makes room for a finding about another, and the order of the tests does not matter
(`moodFault?_eq_some_iff`).

The rule reports at most the one fault of the first word of what the subject states (`MoodReport`).
More exceptions make a report empty or leave it as it is, and more words that are no verbs put their
own report in its place (`mood_exact`).
-/

namespace CommitLint.Check

open Text

/-! ### The first word -/

/-- The first word of a text in lower case, without what stands around it that is neither letter nor
digit; all of it is letters. -/
def IsFirstWord (text word : List Char) : Prop :=
  ∃ before token after core, text = before ++ token ++ after ∧ isBlankText before ∧
    token ≠ [] ∧ (∀ c ∈ token, isBlank c = false) ∧ (∀ c ∈ after.head?, isBlank c) ∧
    TrimsTo (!isAlphanumeric ·) token core ∧ word = lower core ∧ word ≠ [] ∧
    ∀ c ∈ word, isAlphabetic c

theorem words_eq_cons_iff {text token : List Char} {more : List (List Char)} :
    words text = token :: more ↔
      ∃ before after, text = before ++ token ++ after ∧ isBlankText before ∧ token ≠ [] ∧
        (∀ c ∈ token, isBlank c = false) ∧ (∀ c ∈ after.head?, isBlank c) ∧
        words after = more := by
  rw [words, ← maximalRuns_iff]
  constructor
  · rintro (_ | @⟨before, _, after, _, hbefore, hne, htoken, hafter, hmore⟩)
    exact ⟨before, after, rfl, List.all_eq_true.mpr hbefore, hne, htoken, hafter,
      hmore.runsWithout_eq⟩
  · rintro ⟨before, after, rfl, hbefore, hne, htoken, hafter, hmore⟩
    exact .run (List.all_eq_true.mp hbefore) hne htoken hafter (maximalRuns_iff.mpr hmore)

theorem firstWord?_eq_some_iff {text word : List Char} :
    firstWord? text = some word ↔ IsFirstWord text word := by
  rw [firstWord?.eq_def]
  constructor
  · intro h
    split at h
    · cases h
    · rename_i token more hwords
      dsimp only at h
      split_ifs at h with hnone
      rw [Bool.or_eq_true, not_or, List.isEmpty_iff, Bool.not_eq_true', Bool.not_eq_false] at hnone
      obtain rfl := Option.some.inj h
      obtain ⟨before, after, htext, hbefore, hne, htoken, hafter, -⟩ := words_eq_cons_iff.mp hwords
      exact ⟨before, token, after, _, htext, hbefore, hne, htoken, hafter, trimsTo_trimBoth _ _,
        rfl, hnone.1, List.all_eq_true.mp hnone.2⟩
  · rintro ⟨before, token, after, core, htext, hbefore, hne, htoken, hafter, hcore, rfl, hsome,
      hletters⟩
    rw [words_eq_cons_iff.mpr ⟨before, after, htext, hbefore, hne, htoken, hafter, rfl⟩]
    simp [hcore.trimBoth_eq, hsome, List.all_eq_true.mpr hletters]

theorem IsFirstWord.unique {text word word' : List Char} (h : IsFirstWord text word)
    (h' : IsFirstWord text word') : word = word' := by
  rw [← firstWord?_eq_some_iff] at h h'
  exact Option.some.inj (h.symm.trans h')

/-- What a blank line states has no first word. -/
theorem not_isFirstWord_of_isBlankText {line : List Char} (h : isBlankText line)
    (word : List Char) : ¬IsFirstWord (Subject.statement line) word := by
  have hplain : Subject.parse? line = none := by
    refine Option.eq_none_iff_forall_not_mem.mpr fun s hs => ?_
    obtain ⟨l, rfl, -⟩ := Subject.exists_layout_of_parse? hs
    have hcolon := List.all_eq_true.mp h ':' (List.mem_append_right _ List.mem_cons_self)
    exact absurd hcolon (by decide)
  rw [Subject.statement, hplain, ← firstWord?_eq_some_iff, firstWord?.eq_def,
    words_of_isBlankText h]
  exact Option.some_ne_none _ ∘ Eq.symm

/-! ### Lists of words -/

/-- A word in lower case is in a built-in list, or in an added one in any case and with blanks
around it. -/
def IsListed (builtIn added : List String) (word : List Char) : Prop :=
  (∃ w ∈ builtIn, w.toList = word) ∨
    ∃ w ∈ added, ∃ core, TrimsTo isBlank w.toList core ∧ lower core = word

theorem inWordList_iff {builtIn added : List String} {word : List Char} :
    inWordList builtIn added word = true ↔ IsListed builtIn added word := by
  simp only [inWordList, IsListed, Bool.or_eq_true, List.any_eq_true, beq_iff_eq, trimsTo_iff,
    exists_eq_left', trim]

theorem inWordList_eq_false_iff {builtIn added : List String} {word : List Char} :
    inWordList builtIn added word = false ↔ ¬IsListed builtIn added word := by
  rw [← inWordList_iff, Bool.not_eq_true]

theorem IsListed.mono {builtIn added added' : List String} {word : List Char}
    (h : IsListed builtIn added word) (hsubset : added ⊆ added') :
    IsListed builtIn added' word :=
  h.imp_right fun ⟨w, hw, hword⟩ => ⟨w, hsubset hw, hword⟩

/-! ### Endings -/

theorem endsWith_iff {ending s : List Char} : endsWith ending s = true ↔ ending <:+ s := by
  rw [endsWith, startsWith_iff, List.reverse_prefix]

/-- The endings by which a word is told not to be in the imperative mood. -/
inductive Ending where
  | ed
  | ing
  | s

namespace Ending

/-- What a word ends in. -/
def text : Ending → List Char
  | ed => "ed".toList
  | ing => "ing".toList
  | s => ['s']

/-- Imperatives that have the ending. -/
def builtIn : Ending → List String
  | ed => baseFormsEd
  | ing => baseFormsIng
  | s => baseFormsS

/-- Imperatives that the settings add to them. -/
def added (settings : Settings.Imperative) : Ending → List String
  | ed => settings.baseFormsEd
  | ing => settings.baseFormsIng
  | s => settings.baseFormsS

/-- The code of the mood. -/
def code : Ending → Code
  | ed => .pastTense
  | ing => .gerund
  | s => .thirdPerson

/-- How a message says it. -/
def problem : Ending → String
  | ed => "is in the past tense"
  | ing => "is a gerund"
  | s => "is in the third person"

/-- A word has an ending. That in `s` counts on longer words only, and not as part of `ss`. -/
def IsOn (e : Ending) (word : List Char) : Prop :=
  e.text <:+ word ∧ (e = s → 2 < byteLength word ∧ ¬['s', 's'] <:+ word)

/-- The endings differ in their last letters. -/
theorem eq_of_text_suffix {e e' : Ending} {word : List Char} (h : e.text <:+ word)
    (h' : e'.text <:+ word) : e = e' := by
  have hlast {e : Ending} (h : e.text <:+ word) : word.getLast? = e.text.getLast? := by
    obtain ⟨start, rfl⟩ := h
    rw [List.getLast?_append]
    cases e <;> rfl
  have heq := (hlast h).symm.trans (hlast h')
  cases e <;> cases e' <;> first | rfl | exact absurd heq (by decide)

theorem IsOn.unique {e e' : Ending} {word : List Char} (h : e.IsOn word) (h' : e'.IsOn word) :
    e = e' := eq_of_text_suffix h.1 h'.1

/-- An exception to an ending. -/
def IsException (settings : Settings.Imperative) (e : Ending) (word : List Char) : Prop :=
  IsListed e.builtIn (e.added settings) word

end Ending

/-! ### Faults -/

section Faults

variable {settings settings' : Settings.Imperative} {word : List Char} {code : Code}
  {problem : String}

/-- A word that starts no imperative sentence. -/
def IsNonVerb (settings : Settings.Imperative) (word : List Char) : Prop :=
  IsListed nonVerbs settings.nonVerbs word

/-- What is wrong with the mood of a word in lower case. -/
inductive IsFault (settings : Settings.Imperative) (word : List Char) : Code → String → Prop
  | nonVerb (h : IsNonVerb settings word) : IsFault settings word .nonVerb "is not a verb"
  | ending {e : Ending} (hverb : ¬IsNonVerb settings word) (hon : e.IsOn word)
    (hplain : ¬e.IsException settings word) : IsFault settings word e.code e.problem

/-- The test of a word for an ending without an exception. -/
def Ending.test (settings : Settings.Imperative) (word : List Char) : Ending → Bool
  | s =>
    2 < byteLength word && endsWith ['s'] word && !endsWith ['s', 's'] word &&
      !inWordList baseFormsS settings.baseFormsS word
  | e => endsWith e.text word && !inWordList e.builtIn (e.added settings) word

theorem Ending.test_iff (e : Ending) :
    e.test settings word = true ↔ e.IsOn word ∧ ¬e.IsException settings word := by
  cases e
  case s =>
    have hss : (!endsWith ['s', 's'] word) = true ↔ ¬['s', 's'] <:+ word := by
      rw [← endsWith_iff, Bool.not_eq_true', Bool.not_eq_true]
    rw [test, Bool.and_eq_true, Bool.and_eq_true, Bool.and_eq_true, hss, Bool.not_eq_true',
      endsWith_iff, inWordList_eq_false_iff, decide_eq_true_iff,
      and_comm (a := 2 < byteLength word)]
    simp only [IsOn, forall_const, and_assoc]
    rfl
  all_goals
    rw [test, Bool.and_eq_true, Bool.not_eq_true', endsWith_iff, inWordList_eq_false_iff]
    · simp only [IsOn, reduceCtorEq, false_implies, and_true]
      rfl
    · exact fun h => nomatch h

theorem moodFault?_eq_tests (settings : Settings.Imperative) (word : List Char) :
    moodFault? settings word =
      if inWordList nonVerbs settings.nonVerbs word then some (.nonVerb, "is not a verb")
      else if Ending.ed.test settings word then some (Ending.ed.code, Ending.ed.problem)
      else if Ending.ing.test settings word then some (Ending.ing.code, Ending.ing.problem)
      else if Ending.s.test settings word then some (Ending.s.code, Ending.s.problem)
      else none := rfl

theorem isFault_of_moodFault? (h : moodFault? settings word = some (code, problem)) :
    IsFault settings word code problem := by
  have hending {e : Ending} (hverb : ¬inWordList nonVerbs settings.nonVerbs word)
      (htest : e.test settings word) : IsFault settings word e.code e.problem :=
    .ending (mt inWordList_iff.mpr hverb) (e.test_iff.mp htest).1 (e.test_iff.mp htest).2
  rw [moodFault?_eq_tests] at h
  split_ifs at h with hverb hed hing hs <;> obtain ⟨rfl, rfl⟩ := Prod.mk.inj (Option.some.inj h)
  · exact .nonVerb (inWordList_iff.mp hverb)
  · exact hending hverb hed
  · exact hending hverb hing
  · exact hending hverb hs

theorem IsFault.moodFault?_eq (h : IsFault settings word code problem) :
    moodFault? settings word = some (code, problem) := by
  rw [moodFault?_eq_tests]
  cases h with
  | nonVerb h => rw [if_pos (inWordList_iff.mpr h)]
  | @ending e hverb hon hplain =>
    rw [if_neg (mt inWordList_iff.mp hverb)]
    have htest : e.test settings word = true := e.test_iff.mpr ⟨hon, hplain⟩
    -- A test for another ending fails, whatever the exceptions to that one are.
    have hother (e' : Ending) (hne : e' ≠ e) : ¬e'.test settings word = true :=
      fun h => hne ((e'.test_iff.mp h).1.unique hon)
    cases e with
    | ed => rw [if_pos htest]
    | ing => rw [if_neg (hother .ed nofun), if_pos htest]
    | s => rw [if_neg (hother .ed nofun), if_neg (hother .ing nofun), if_pos htest]

theorem moodFault?_eq_some_iff :
    moodFault? settings word = some (code, problem) ↔ IsFault settings word code problem :=
  ⟨isFault_of_moodFault?, IsFault.moodFault?_eq⟩

/-- An exception to its ending that is no non-verb has nothing wrong. -/
theorem not_isFault_of_isException {e : Ending} (hverb : ¬IsNonVerb settings word)
    (htext : e.text <:+ word) (h : e.IsException settings word) :
    ¬IsFault settings word code problem := by
  rintro (hlisted | ⟨-, hon, hplain⟩)
  · exact hverb hlisted
  · exact hplain (Ending.eq_of_text_suffix htext hon.1 ▸ h)

/-- Settings with more exceptions, and the same words that are no verbs. -/
structure AddsExceptions (settings settings' : Settings.Imperative) : Prop where
  added : ∀ e : Ending, e.added settings ⊆ e.added settings'
  nonVerbs : settings'.nonVerbs = settings.nonVerbs

theorem AddsExceptions.isFault (h : AddsExceptions settings settings')
    (hfault : IsFault settings' word code problem) : IsFault settings word code problem := by
  have hverb : IsNonVerb settings' word ↔ IsNonVerb settings word := by
    rw [IsNonVerb, IsNonVerb, h.nonVerbs]
  cases hfault with
  | nonVerb hlisted => exact .nonVerb (hverb.mp hlisted)
  | ending hno hon hplain =>
    exact .ending (mt hverb.mpr hno) hon fun hexception => hplain (hexception.mono (h.added _))

/-- Settings with more words that are no verbs, and the same exceptions. -/
structure AddsNonVerbs (settings settings' : Settings.Imperative) : Prop where
  added : ∀ e : Ending, e.added settings' = e.added settings
  nonVerbs : settings.nonVerbs ⊆ settings'.nonVerbs

theorem AddsNonVerbs.isFault_or (h : AddsNonVerbs settings settings')
    (hfault : IsFault settings word code problem) :
    IsFault settings' word code problem ∨ IsNonVerb settings' word := by
  by_cases hverb : IsNonVerb settings' word
  · exact .inr hverb
  · cases hfault with
    | nonVerb hlisted => exact .inr (hlisted.mono h.nonVerbs)
    | @ending e hno hon hplain =>
      refine .inl (.ending hverb hon ?_)
      rwa [Ending.IsException, h.added]

theorem AddsNonVerbs.isFault (h : AddsNonVerbs settings settings')
    (hfault : IsFault settings' word code problem) :
    IsFault settings word code problem ∨ IsNonVerb settings' word := by
  cases hfault with
  | nonVerb hlisted => exact .inr hlisted
  | @ending e hno hon hplain =>
    refine .inl (.ending (fun hlisted => hno (hlisted.mono h.nonVerbs)) hon ?_)
    rwa [Ending.IsException, ← h.added]

end Faults

/-! ### Reports -/

section Reports

variable {settings settings' : Settings.Imperative} {c : Commit} {findings : List Finding}

/-- What is found about the mood of a commit. -/
inductive MoodReport (settings : Settings.Imperative) (c : Commit) : List Finding → Prop
  | blank (h : isBlankText c.subject.toList) :
    MoodReport settings c [emptySubject .imperativeVerb]
  | nothing (hvisible : ¬isBlankText c.subject.toList)
    (h : ∀ word, IsFirstWord (Subject.statement c.subject.toList) word →
      ∀ code problem, ¬IsFault settings word code problem) : MoodReport settings c []
  | fault {word : List Char} {code : Code} {problem : String}
    (hword : IsFirstWord (Subject.statement c.subject.toList) word)
    (h : IsFault settings word code problem) :
    MoodReport settings c [moodFinding (.ofList word) code problem]

theorem moodReport_findings (settings : Settings.Imperative) (c : Commit) :
    MoodReport settings c (mood settings c).findings := by
  rw [mood]
  split
  next hblank => exact .blank hblank
  next hvisible =>
    split
    next hnone =>
      refine .nothing hvisible fun word hword => ?_
      rw [← firstWord?_eq_some_iff, hnone] at hword
      cases hword
    next word hword =>
      rw [firstWord?_eq_some_iff] at hword
      dsimp only
      split
      next hnone =>
        refine .nothing hvisible fun word' hword' code problem hfault => ?_
        rw [← hword.unique hword', ← moodFault?_eq_some_iff, hnone] at hfault
        cases hfault
      next code problem hfault => exact .fault hword (moodFault?_eq_some_iff.mp hfault)

theorem MoodReport.unique {findings' : List Finding} (h : MoodReport settings c findings)
    (h' : MoodReport settings c findings') : findings = findings' := by
  cases h with
  | blank hblank =>
    cases h' with
    | blank => rfl
    | nothing hvisible => exact absurd hblank hvisible
    | fault hword => exact absurd hword (not_isFirstWord_of_isBlankText hblank _)
  | nothing hvisible hnone =>
    cases h' with
    | blank hblank => exact absurd hblank hvisible
    | nothing => rfl
    | fault hword hfault => exact absurd hfault (hnone _ hword _ _)
  | fault hword hfault =>
    cases h' with
    | blank hblank => exact absurd hword (not_isFirstWord_of_isBlankText hblank _)
    | nothing _ hnone => exact absurd hfault (hnone _ hword _ _)
    | fault hword' hfault' =>
      obtain rfl := hword.unique hword'
      rw [← moodFault?_eq_some_iff] at hfault hfault'
      obtain ⟨rfl, rfl⟩ := Prod.mk.inj (Option.some.inj (hfault.symm.trans hfault'))
      rfl

theorem findings_mood_eq_iff :
    (mood settings c).findings = findings ↔ MoodReport settings c findings :=
  ⟨fun h => h ▸ moodReport_findings settings c, (moodReport_findings settings c).unique⟩

/-- The rule reports at most one finding, about the first word of what the subject states. Further
exceptions can only take it away, and further non-verbs can only put their own in its place; an
exception to its ending that is no non-verb is not reported. -/
theorem mood_exact (settings settings' : Settings.Imperative) (c : Commit) :
    (∀ findings, (mood settings c).findings = findings ↔ MoodReport settings c findings) ∧
    (mood settings c).findings.length ≤ 1 ∧
    (AddsExceptions settings settings' →
      (mood settings' c).findings = (mood settings c).findings ∨
        (mood settings' c).findings = []) ∧
    (AddsNonVerbs settings settings' →
      (mood settings' c).findings = (mood settings c).findings ∨
        ∃ word, IsFirstWord (Subject.statement c.subject.toList) word ∧
          (mood settings' c).findings =
            [moodFinding (.ofList word) .nonVerb "is not a verb"]) ∧
    ∀ word, IsFirstWord (Subject.statement c.subject.toList) word → ¬IsNonVerb settings word →
      ∀ e : Ending, e.text <:+ word → e.IsException settings word →
        (mood settings c).findings = [] := by
  have hreport := moodReport_findings settings c
  have hreport' := moodReport_findings settings' c
  refine ⟨fun findings => findings_mood_eq_iff, ?_, fun hadds => ?_, fun hadds => ?_,
    fun word hword hverb e htext hexception => ?_⟩
  · generalize (mood settings c).findings = findings at hreport
    cases hreport <;> simp
  · generalize hfindings' : (mood settings' c).findings = findings' at hreport'
    cases hreport' with
    | blank hblank => exact .inl (findings_mood_eq_iff.mpr (.blank hblank)).symm
    | nothing => exact .inr rfl
    | fault hword hfault =>
      exact .inl (findings_mood_eq_iff.mpr (.fault hword (hadds.isFault hfault))).symm
  · generalize hfindings : (mood settings c).findings = findings at hreport
    cases hreport with
    | blank hblank => exact .inl (findings_mood_eq_iff.mpr (.blank hblank))
    | nothing hvisible hnone =>
      generalize hfindings' : (mood settings' c).findings = findings' at hreport'
      cases hreport' with
      | blank hblank => exact absurd hblank hvisible
      | nothing => exact .inl rfl
      | @fault word _ _ hword hfault =>
        -- A fault that is new is that of a new non-verb.
        have hverb := (hadds.isFault hfault).resolve_left (hnone word hword _ _)
        refine .inr ⟨word, hword, ?_⟩
        rw [← hfindings', findings_mood_eq_iff]
        exact .fault hword (.nonVerb hverb)
    | @fault word _ _ hword hfault =>
      rcases hadds.isFault_or hfault with hkept | hverb
      · exact .inl (findings_mood_eq_iff.mpr (.fault hword hkept))
      · exact .inr ⟨word, hword, findings_mood_eq_iff.mpr (.fault hword (.nonVerb hverb))⟩
  · refine findings_mood_eq_iff.mpr
      (.nothing (fun hblank => ?_) fun word' hword' code problem => ?_)
    · exact not_isFirstWord_of_isBlankText hblank word hword
    · exact hword.unique hword' ▸ not_isFault_of_isException hverb htext hexception

end Reports

/-- A name that ends in `s` is reported, but not when it is an exception. When it is a non-verb,
nothing but that is new. -/
theorem mood_exact_redis :
    let c : Commit := { message := "fix(db): Redis, warmed up" }
    let exceptions : Settings.Imperative := { baseFormsS := [" REDIS "] }
    let names : Settings.Imperative := { nonVerbs := ["redis"] }
    (mood {} c).findings = [moodFinding "redis" .thirdPerson "is in the third person"] ∧
      (AddsExceptions {} exceptions ∧ (mood exceptions c).findings = []) ∧
      AddsNonVerbs {} names ∧
        ∀ f ∈ (mood names c).findings, f ∈ (mood {} c).findings ∨ f.code = .nonVerb := by
  intro c exceptions names
  have hword : IsFirstWord (Subject.statement c.subject.toList) "redis".toList :=
    firstWord?_eq_some_iff.mp (by decide)
  have hverb : ¬IsNonVerb exceptions "redis".toList := inWordList_eq_false_iff.mp (by decide)
  have hexception : Ending.s.IsException exceptions "redis".toList :=
    inWordList_iff.mp (by decide)
  have hadds : AddsExceptions {} exceptions := ⟨fun e => by cases e <;> simp [Ending.added], rfl⟩
  have haddsNames : AddsNonVerbs {} names := ⟨fun e => by cases e <;> rfl, List.nil_subset _⟩
  obtain ⟨hiff, -, hfewer, -, -⟩ := mood_exact {} exceptions c
  obtain ⟨-, -, -, hnew, -⟩ := mood_exact {} names c
  obtain ⟨-, -, -, -, hquiet⟩ := mood_exact exceptions {} c
  have hfault : IsFault {} "redis".toList .thirdPerson "is in the third person" :=
    moodFault?_eq_some_iff.mp (by decide)
  have hplain := (hiff _).mpr (.fault hword hfault)
  have hnone := hquiet _ hword hverb .s (by decide) hexception
  refine ⟨hplain, ⟨hadds, (hfewer hadds).elim (fun _ => hnone) id⟩, haddsNames, fun f hf => ?_⟩
  · rcases hnew haddsNames with hsame | ⟨word, -, hreport⟩
    · exact .inl (hsame ▸ hf)
    · rw [hreport] at hf
      exact .inr (List.mem_singleton.mp hf ▸ rfl)

end CommitLint.Check
