import CommitLint.Check.Spelling
import CommitLint.Proofs.Entries
import CommitLint.Proofs.Fields
import CommitLint.Proofs.Message
import CommitLint.Proofs.Text.Insertion
import CommitLint.Proofs.Text.Runs
import CommitLint.Proofs.Text.Visible
import CommitLint.Proofs.Trailer

/-!
# Spelling

The loop over the words of a commit does three things at once: it leaves out words that are to be
ignored, words that were reported, and words without a correction. What comes out is what one gets
by taking the first word of each lower case and looking only these up (`spellFindings_eq`). The set
that the loop keeps mixes words that are ignored with words that were reported, and is missing words
that were seen but have no correction; the two agree on every word that has one, and no others
matter.

Words of the settings stand for a word in lower case (`StandsFor`), so what is corrected and what is
ignored is said without the table that the loop looks words up in (`corrects_iff`).

The words themselves come from lines, and blanks around a line make no difference to its words
(`wordsOfLine_trim`). So the words of the body are those of the visible lines of the message, and
lines that look like sign-offs can be written between them (`checkedWords_congr`).
-/

namespace CommitLint.Check

open Text Trailer Entries

/-! ### The words that are checked -/

/-- The words of a line: its maximal runs of letters and apostrophes, each without the apostrophes
around it, as far as there is something left. -/
def IsLineWords (line : List Char) (ws : List String) : Prop :=
  ∃ runs texts, MaximalRuns (fun c => !(isAlphabetic c || c == '\'')) line runs ∧
    List.Forall₂ (TrimsTo (· == '\'')) runs texts ∧ ws = (texts.filter (· ≠ [])).map String.ofList

/-- The words of some lines, without those that look like sign-offs. -/
inductive WordsOf : List (List Char) → List String → Prop
  | nil : WordsOf [] []
  | signOff {line : List Char} {below : List (List Char)} {more : List String} :
    IsAttempt line → WordsOf below more → WordsOf (line :: below) more
  | line {line : List Char} {below : List (List Char)} {ws more : List String} :
    ¬IsAttempt line → IsLineWords line ws → WordsOf below more →
      WordsOf (line :: below) (ws ++ more)

theorem wordsOfLine_eq (line : List Char) :
    wordsOfLine line =
      (((runsWithout separatesWords line).map (trimBoth (· == '\''))).filter (· ≠ [])).map
        String.ofList := by
  have hempty : ∀ piece : List Char, trimBoth (· == '\'') piece ≠ [] → piece ≠ [] := by
    rintro piece hne rfl
    exact hne rfl
  rw [wordsOfLine, runsWithout, List.filter_map, List.filter_map, List.filter_filter]
  refine congrArg (List.map String.ofList ∘ List.map (trimBoth (· == '\'')))
    (List.filter_congr fun piece _ => ?_)
  rw [Bool.eq_iff_iff]
  simpa using hempty piece

theorem isLineWords_iff {line : List Char} {ws : List String} :
    IsLineWords line ws ↔ wordsOfLine line = ws := by
  have htexts : ∀ runs texts, List.Forall₂ (TrimsTo (· == '\'')) runs texts ↔
      runs.map (trimBoth (· == '\'')) = texts := fun runs texts => by
    rw [← List.forall₂_eq_eq_eq, List.forall₂_map_left_iff]
    exact ⟨fun h => h.imp fun _ _ => trimsTo_iff.mp, fun h => h.imp fun _ _ => trimsTo_iff.mpr⟩
  rw [wordsOfLine_eq]
  constructor
  · rintro ⟨runs, texts, hruns, htrim, rfl⟩
    have heq : runsWithout separatesWords line = runs := maximalRuns_iff.mp hruns
    rw [heq, (htexts _ _).mp htrim]
  · rintro rfl
    exact ⟨_, _, maximalRuns_iff.mpr rfl, (htexts _ _).mpr rfl, rfl⟩

theorem wordsOf_iff {ls : List (List Char)} {ws : List String} :
    WordsOf ls ws ↔ (ls.filter (!isSignOffAttempt ·)).flatMap wordsOfLine = ws := by
  constructor
  · intro h
    induction h with
    | nil => rfl
    | signOff hattempt _ ih =>
      rwa [List.filter_cons_of_neg (by simpa using isSignOffAttempt_iff.mpr hattempt)]
    | line hplain hwords _ ih =>
      rw [List.filter_cons_of_pos (by simpa using mt isSignOffAttempt_iff.mp hplain),
        List.flatMap_cons, isLineWords_iff.mp hwords, ih]
  · rintro rfl
    induction ls with
    | nil => exact .nil
    | cons line below ih =>
      by_cases hattempt : IsAttempt line
      · rw [List.filter_cons_of_neg (by simpa using isSignOffAttempt_iff.mpr hattempt)]
        exact .signOff hattempt ih
      · rw [List.filter_cons_of_pos (by simpa using mt isSignOffAttempt_iff.mp hattempt),
          List.flatMap_cons]
        exact .line hattempt (isLineWords_iff.mpr rfl) ih

/-! ### Words of the settings -/

/-- A word of the settings stands for a word in lower case, in any case and with blanks around
it. -/
def StandsFor (word : String) (low : List Char) : Prop :=
  ∃ core, TrimsTo isBlank word.toList core ∧ lower core = low

theorem lookupForm_eq_iff {word : String} {low : List Char} :
    lookupForm word = .ofList low ↔ StandsFor word low := by
  simp only [lookupForm, StandsFor, String.ofList_inj, trimsTo_iff, exists_eq_left', trim]

theorem lowerWord_eq_iff {word word' : String} :
    lowerWord word = lowerWord word' ↔ lower word.toList = lower word'.toList :=
  String.ofList_inj

/-! ### Corrections -/

/-- What a word in lower case is corrected to: custom words come first, and the last of them that
stand for the same word, then the British spellings, if they are asked for. -/
inductive Corrects (settings : Settings.Spelling) : List Char → String → Prop
  | custom {before after : List (String × String)} {word right : String} {low : List Char} :
    settings.customWords.entries = before ++ (word, right) :: after → StandsFor word low →
      (∀ e ∈ after, ¬StandsFor e.1 low) → Corrects settings low right
  | british {wrong right : String} :
    (∀ e ∈ settings.customWords.entries, ¬StandsFor e.1 wrong.toList) →
      settings.locale = .uk → (wrong, right) ∈ britishSpellings →
      Corrects settings wrong.toList right
  | common {wrong right : String} :
    (∀ e ∈ settings.customWords.entries, ¬StandsFor e.1 wrong.toList) →
      (settings.locale = .uk → wrong ∉ britishSpellings.map Prod.fst) →
      (wrong, right) ∈ misspellings → Corrects settings wrong.toList right

theorem hasDistinctKeys_misspellings : HasDistinctKeys misspellings := by
  rw [HasDistinctKeys]
  decide

theorem hasDistinctKeys_britishSpellings : HasDistinctKeys britishSpellings := by
  rw [HasDistinctKeys]
  decide

/-- The custom words in the form in which they are looked up, the last one first. -/
def customCorrections (settings : Settings.Spelling) : List (String × String) :=
  (settings.customWords.entries.map fun e => (lookupForm e.1, e.2)).reverse

section

variable {settings : Settings.Spelling} {low right : String}

theorem lookup_customCorrections_eq_some_iff :
    (customCorrections settings).lookup low = some right ↔
      ∃ before after word, settings.customWords.entries = before ++ (word, right) :: after ∧
        lookupForm word = low ∧ ∀ e ∈ after, lookupForm e.1 ≠ low := by
  rw [customCorrections, lookup_reverse_eq_some_iff]
  constructor
  · rintro ⟨l, l', heq, hne⟩
    obtain ⟨before, rest, hentries, -, hrest⟩ := List.map_eq_append_iff.mp heq
    obtain ⟨⟨word, correction⟩, after, rfl, hword, rfl⟩ := List.map_eq_cons_iff.mp hrest
    rw [Prod.mk.injEq] at hword
    obtain ⟨hlow, rfl⟩ := hword
    exact ⟨before, after, word, hentries, hlow, fun e he => hne _ (List.mem_map_of_mem he)⟩
  · rintro ⟨before, after, word, hentries, rfl, hne⟩
    rw [hentries, List.map_append, List.map_cons]
    exact ⟨_, _, rfl, List.forall_mem_map.mpr hne⟩

theorem lookup_customCorrections_eq_none_iff :
    (customCorrections settings).lookup low = none ↔
      ∀ e ∈ settings.customWords.entries, lookupForm e.1 ≠ low := by
  simp only [List.lookup_eq_none_iff, customCorrections, List.mem_reverse, List.forall_mem_map,
    bne_iff_ne, ne_comm]

theorem lookup_corrections_eq_some_iff :
    (corrections settings).lookup low = some right ↔
      (customCorrections settings).lookup low = some right ∨
        (customCorrections settings).lookup low = none ∧
          (settings.locale = .uk ∧ britishSpellings.lookup low = some right ∨
            (settings.locale = .uk → britishSpellings.lookup low = none) ∧
              misspellings.lookup low = some right) := by
  have heq : corrections settings = customCorrections settings ++
      (if settings.locale = .uk then britishSpellings else []) ++ misspellings := by
    rw [corrections]
    cases settings.locale <;> rfl
  rw [heq, List.append_assoc, List.lookup_append, List.lookup_append, Option.or_eq_some_iff,
    Option.or_eq_some_iff]
  cases settings.locale <;> simp

theorem corrects_iff {low : List Char} :
    Corrects settings low right ↔ (corrections settings).lookup (.ofList low) = some right := by
  rw [lookup_corrections_eq_some_iff, lookup_customCorrections_eq_some_iff,
    lookup_customCorrections_eq_none_iff, hasDistinctKeys_britishSpellings.lookup_eq_some_iff,
    lookup_eq_none_iff_not_mem, hasDistinctKeys_misspellings.lookup_eq_some_iff]
  simp only [ne_eq, lookupForm_eq_iff]
  constructor
  · intro h
    cases h with
    | custom hentries hword hafter => exact .inl ⟨_, _, _, hentries, hword, hafter⟩
    | british hcustom hlocale hmem =>
      rw [String.ofList_toList]
      exact .inr ⟨hcustom, .inl ⟨hlocale, hmem⟩⟩
    | common hcustom hbritish hmem =>
      rw [String.ofList_toList]
      exact .inr ⟨hcustom, .inr ⟨hbritish, hmem⟩⟩
  · obtain ⟨wrong, rfl⟩ : ∃ wrong : String, low = wrong.toList :=
      ⟨.ofList low, String.toList_ofList.symm⟩
    rw [String.ofList_toList]
    rintro (⟨before, after, word, hentries, hword, hafter⟩ | ⟨hcustom, ⟨hlocale, hmem⟩ |
      ⟨hbritish, hmem⟩⟩)
    · exact .custom hentries hword hafter
    · exact .british hcustom hlocale hmem
    · exact .common hcustom hbritish hmem

end

/-! ### Words that are reported -/

/-- A word in lower case is one that is to be left alone. -/
def IsIgnored (ignored : List String) (low : List Char) : Prop :=
  ∃ word ∈ ignored, StandsFor word low

theorem mem_map_lookupForm_iff {ignored : List String} {low : List Char} :
    String.ofList low ∈ ignored.map lookupForm ↔ IsIgnored ignored low := by
  simp only [List.mem_map, lookupForm_eq_iff, IsIgnored]

instance (ignored : List String) : DecidablePred (IsIgnored ignored) := fun _ =>
  decidable_of_iff _ mem_map_lookupForm_iff

/-- A word as it stands first among some words, whatever the case. -/
def IsFirst (ws : List String) (word : String) : Prop :=
  ∃ before after, ws = before ++ word :: after ∧
    ∀ w ∈ before, lower w.toList ≠ lower word.toList

/-- The words whose lower case has not been seen before. -/
def firstWords (seen : List String) : List String → List String
  | [] => []
  | word :: more =>
    if lowerWord word ∈ seen then firstWords seen more
    else word :: firstWords (lowerWord word :: seen) more

theorem not_isFirst_nil (word : String) : ¬IsFirst [] word := by
  rintro ⟨before, after, heq, -⟩
  simp at heq

theorem isFirst_cons_iff {first word : String} {ws : List String} :
    IsFirst (first :: ws) word ↔
      word = first ∨ lowerWord first ≠ lowerWord word ∧ IsFirst ws word := by
  rw [ne_eq, lowerWord_eq_iff]
  constructor
  · rintro ⟨_ | ⟨w, before⟩, after, heq, hbefore⟩
    · exact .inl (List.cons_eq_cons.mp heq).1.symm
    · obtain ⟨rfl, rfl⟩ := List.cons_eq_cons.mp heq
      obtain ⟨hfirst, hbefore⟩ := List.forall_mem_cons.mp hbefore
      exact .inr ⟨hfirst, before, after, rfl, hbefore⟩
  · rintro (rfl | ⟨hfirst, before, after, rfl, hbefore⟩)
    · exact ⟨[], ws, rfl, List.forall_mem_nil _⟩
    · exact ⟨first :: before, after, rfl, List.forall_mem_cons.mpr ⟨hfirst, hbefore⟩⟩

theorem mem_firstWords_iff {seen ws : List String} {word : String} :
    word ∈ firstWords seen ws ↔ lowerWord word ∉ seen ∧ IsFirst ws word := by
  induction ws generalizing seen with
  | nil => simp [firstWords, not_isFirst_nil]
  | cons first ws ih =>
    rw [firstWords, isFirst_cons_iff]
    split
    · rename_i hseen
      rw [ih]
      refine and_congr_right fun hword => ?_
      have hne : lowerWord first ≠ lowerWord word := fun heq => hword (heq ▸ hseen)
      rw [and_iff_right hne, or_iff_right fun heq => hne (congrArg lowerWord heq.symm)]
    · rename_i hseen
      rw [List.mem_cons, ih, List.mem_cons, not_or]
      constructor
      · rintro (rfl | ⟨⟨hne, hword⟩, hfirst⟩)
        · exact ⟨hseen, .inl rfl⟩
        · exact ⟨hword, .inr ⟨Ne.symm hne, hfirst⟩⟩
      · rintro ⟨hword, rfl | ⟨hne, hfirst⟩⟩
        · exact .inl rfl
        · exact .inr ⟨⟨Ne.symm hne, hword⟩, hfirst⟩

/-- The words come in the order of the text. -/
theorem pairwise_firstWords (seen ws : List String) :
    (firstWords seen ws).Pairwise (ws.idxOf · < ws.idxOf ·) := by
  induction ws generalizing seen with
  | nil => exact .nil
  | cons first ws ih =>
    -- A word that comes later is not the first one again, so its place is counted from the rest.
    have hlater : ∀ seen, lowerWord first ∈ seen → ∀ w ∈ firstWords seen ws,
        (first :: ws).idxOf w = ws.idxOf w + 1 := fun seen hseen w hw => by
      refine List.idxOf_cons_ne ws ?_
      rintro rfl
      exact (mem_firstWords_iff.mp hw).1 hseen
    have hmore : ∀ seen, lowerWord first ∈ seen →
        (firstWords seen ws).Pairwise ((first :: ws).idxOf · < (first :: ws).idxOf ·) :=
      fun seen hseen => (ih seen).imp_of_mem fun {v w} hv hw hlt => by
        rw [hlater seen hseen v hv, hlater seen hseen w hw]
        exact Nat.succ_lt_succ hlt
    rw [firstWords]
    split
    · rename_i hseen
      exact hmore seen hseen
    · refine List.pairwise_cons.mpr ⟨fun w hw => ?_, hmore _ List.mem_cons_self⟩
      rw [List.idxOf_cons_self, hlater _ List.mem_cons_self w hw]
      exact Nat.succ_pos _

/-- A word with its correction, unless it is ignored. -/
def correction? (table : List (String × String)) (ignored : List String) (word : String) :
    Option (String × String) :=
  if lowerWord word ∈ ignored then none else (table.lookup (lowerWord word)).map (word, ·)

theorem spellFindings_cons_of_skipped {table : List (String × String)} {skipped : List String}
    {word : String} (h : lowerWord word ∈ skipped ∨ table.lookup (lowerWord word) = none)
    (ws : List String) :
    spellFindings table skipped (word :: ws) = spellFindings table skipped ws := by
  have hnone : (if skipped.contains (lowerWord word) then none
      else table.lookup (lowerWord word)) = none := by
    rcases h with h | h
    · rw [if_pos (List.contains_iff_mem.mpr h)]
    · rw [h, ite_self]
  rw [spellFindings]
  simp only [hnone]

theorem spellFindings_cons_of_not_skipped {table : List (String × String)} {skipped : List String}
    {word correction : String} (h : lowerWord word ∉ skipped)
    (hlookup : table.lookup (lowerWord word) = some correction) (ws : List String) :
    spellFindings table skipped (word :: ws) =
      misspelled word correction :: spellFindings table (lowerWord word :: skipped) ws := by
  rw [spellFindings]
  simp only [if_neg (mt List.contains_iff_mem.mp h), hlookup]

/-- Only the first word of each lower case matters. What the loop skips are, among the words with a
correction, those that are ignored and those that it has seen. -/
theorem spellFindings_eq {table : List (String × String)} {ignored seen skipped : List String}
    (h : ∀ low, table.lookup low ≠ none → (low ∈ skipped ↔ low ∈ ignored ∨ low ∈ seen))
    (ws : List String) :
    spellFindings table skipped ws =
      ((firstWords seen ws).filterMap (correction? table ignored)).map
        fun e => misspelled e.1 e.2 := by
  induction ws generalizing seen skipped with
  | nil => rfl
  | cons word ws ih =>
    rw [firstWords]
    cases hlookup : table.lookup (lowerWord word) with
    | none =>
      -- The loop keeps no record of such a word, and `h` asks for none.
      have hnone : correction? table ignored word = none := by simp [correction?, hlookup]
      rw [spellFindings_cons_of_skipped (.inr hlookup)]
      split
      · exact ih h
      · rw [List.filterMap_cons_none hnone]
        refine ih fun low hlow => (h low hlow).trans (or_congr_right ?_)
        rw [List.mem_cons, or_iff_right]
        rintro rfl
        exact hlow hlookup
    | some correction =>
      have hskipped := h (lowerWord word) (by simp [hlookup])
      split
      · rename_i hseen
        rw [spellFindings_cons_of_skipped (.inl (hskipped.mpr (.inr hseen)))]
        exact ih h
      · rename_i hseen
        by_cases hignored : lowerWord word ∈ ignored
        -- An ignored word is skipped from the start, so that it was seen adds nothing.
        · have hnone : correction? table ignored word = none := if_pos hignored
          rw [spellFindings_cons_of_skipped (.inl (hskipped.mpr (.inl hignored))),
            List.filterMap_cons_none hnone]
          refine ih fun low hlow => (h low hlow).trans ?_
          rw [List.mem_cons]
          grind
        · have hsome : correction? table ignored word = some (word, correction) := by
            rw [correction?, if_neg hignored, hlookup, Option.map_some]
          have hfresh : lowerWord word ∉ skipped :=
            mt hskipped.mp (not_or.mpr ⟨hignored, hseen⟩)
          rw [spellFindings_cons_of_not_skipped hfresh hlookup,
            List.filterMap_cons_some hsome, List.map_cons]
          refine congrArg _ (ih fun low hlow => ?_)
          rw [List.mem_cons, List.mem_cons, h low hlow, or_left_comm]

/-- The words of a list that are reported, with their corrections. -/
def reported (settings : Settings.Spelling) (ws : List String) : List (String × String) :=
  (firstWords [] ws).filterMap
    (correction? (corrections settings) (settings.ignoreWords.map lookupForm))

theorem findings_spelling (settings : Settings.Spelling) (c : Commit) :
    (spelling settings c).findings =
      (reported settings (checkedWords c)).map fun e => misspelled e.1 e.2 := by
  simp only [spelling, reported]
  exact spellFindings_eq (fun low _ => by rw [or_iff_left List.not_mem_nil]) (checkedWords c)

section

variable {settings : Settings.Spelling} {ws : List String} {word right : String}

theorem correction?_eq_some_iff {w : String} :
    correction? (corrections settings) (settings.ignoreWords.map lookupForm) w =
        some (word, right) ↔
      w = word ∧ ¬IsIgnored settings.ignoreWords (lower word.toList) ∧
        Corrects settings (lower word.toList) right := by
  have hignored : lowerWord w ∈ settings.ignoreWords.map lookupForm ↔
      IsIgnored settings.ignoreWords (lower w.toList) := mem_map_lookupForm_iff
  rw [correction?, corrects_iff]
  split
  · rename_i hmem
    refine iff_of_false (fun h => nomatch h) ?_
    rintro ⟨rfl, hfresh, -⟩
    exact hfresh (hignored.mp hmem)
  · rename_i hmem
    simp only [Option.map_eq_some_iff, Prod.mk.injEq]
    constructor
    · rintro ⟨correction, hlookup, rfl, rfl⟩
      exact ⟨rfl, mt hignored.mpr hmem, hlookup⟩
    · rintro ⟨rfl, -, hlookup⟩
      exact ⟨right, hlookup, rfl, rfl⟩

theorem mem_reported_iff :
    (word, right) ∈ reported settings ws ↔ IsFirst ws word ∧
      ¬IsIgnored settings.ignoreWords (lower word.toList) ∧
        Corrects settings (lower word.toList) right := by
  simp only [reported, List.mem_filterMap, correction?_eq_some_iff, mem_firstWords_iff,
    List.not_mem_nil, not_false_eq_true, true_and]
  constructor
  · rintro ⟨w, hfirst, rfl, h⟩
    exact ⟨hfirst, h⟩
  · rintro ⟨hfirst, h⟩
    exact ⟨word, hfirst, rfl, h⟩

theorem pairwise_reported (settings : Settings.Spelling) (ws : List String) :
    (reported settings ws).Pairwise fun e e' => ws.idxOf e.1 < ws.idxOf e'.1 := by
  refine List.Pairwise.filterMap _ (fun v w hlt e he e' he' => ?_) (pairwise_firstWords [] ws)
  obtain ⟨rfl, -⟩ := correction?_eq_some_iff.mp he
  obtain ⟨rfl, -⟩ := correction?_eq_some_iff.mp he'
  exact hlt

theorem IsFirst.eq_of_lowerWord_eq {word' : String} (h : IsFirst ws word)
    (h' : IsFirst ws word') (hlow : lowerWord word = lowerWord word') : word = word' := by
  induction ws with
  | nil => exact absurd h (not_isFirst_nil word)
  | cons first ws ih =>
    rcases isFirst_cons_iff.mp h with rfl | ⟨hne, h⟩
    · exact ((isFirst_cons_iff.mp h').resolve_right fun hlater => hlater.1 hlow).symm
    · rcases isFirst_cons_iff.mp h' with rfl | ⟨-, h'⟩
      · exact absurd hlow.symm hne
      · exact ih h h'

theorem exists_isFirst (h : word ∈ ws) :
    ∃ first, IsFirst ws first ∧ lowerWord first = lowerWord word := by
  induction ws with
  | nil => exact absurd h List.not_mem_nil
  | cons first ws ih =>
    by_cases hlow : lowerWord first = lowerWord word
    · exact ⟨first, isFirst_cons_iff.mpr (.inl rfl), hlow⟩
    · have hmem : word ∈ ws := (List.mem_cons.mp h).resolve_left fun heq => hlow (heq ▸ rfl)
      obtain ⟨w, hw, heq⟩ := ih hmem
      exact ⟨w, isFirst_cons_iff.mpr (.inr ⟨heq ▸ hlow, hw⟩), heq⟩

/-- No word is reported twice, whatever its case. -/
theorem nodup_lower_reported (settings : Settings.Spelling) (ws : List String) :
    ((reported settings ws).map (lower ·.1.toList)).Nodup := by
  refine List.pairwise_map.mpr ((pairwise_reported settings ws).imp_of_mem ?_)
  intro e e' he he' hlt hlow
  have hword := (mem_reported_iff.mp he).1.eq_of_lowerWord_eq (mem_reported_iff.mp he').1
    (lowerWord_eq_iff.mpr hlow)
  rw [hword] at hlt
  exact Nat.lt_irrefl _ hlt

/-- What is reported are the words that have a correction and are not ignored, in lower case. -/
theorem mem_map_lower_reported_iff {low : List Char} :
    low ∈ (reported settings ws).map (lower ·.1.toList) ↔ low ∈ ws.map (lower ·.toList) ∧
      ¬IsIgnored settings.ignoreWords low ∧ ∃ right, Corrects settings low right := by
  rw [List.mem_map, List.mem_map]
  constructor
  · rintro ⟨⟨word, right⟩, hmem, rfl⟩
    obtain ⟨⟨before, after, hwords, -⟩, hfresh, hcorrects⟩ := mem_reported_iff.mp hmem
    exact ⟨⟨word, hwords ▸ by simp, rfl⟩, hfresh, right, hcorrects⟩
  · rintro ⟨⟨word, hword, rfl⟩, hfresh, right, hcorrects⟩
    obtain ⟨first, hfirst, hlow⟩ := exists_isFirst hword
    rw [lowerWord_eq_iff] at hlow
    exact ⟨(first, right), mem_reported_iff.mpr ⟨hfirst, hlow ▸ hfresh, hlow ▸ hcorrects⟩, hlow⟩

/-- With more words to be ignored, just these are missing. -/
theorem reported_enlarged {ignored : List String} (h : settings.ignoreWords ⊆ ignored) :
    reported { settings with ignoreWords := ignored } ws =
      (reported settings ws).filter fun e => ¬IsIgnored ignored (lower e.1.toList) := by
  have htable : corrections { settings with ignoreWords := ignored } = corrections settings := rfl
  have hmore : ∀ low, IsIgnored settings.ignoreWords low → IsIgnored ignored low :=
    fun low ⟨word, hword, hlow⟩ => ⟨word, h hword, hlow⟩
  rw [reported, reported, List.filter_filterMap]
  refine List.filterMap_congr fun w _ => Option.ext fun ⟨word, right⟩ => ?_
  rw [Option.filter_eq_some_iff, correction?_eq_some_iff, correction?_eq_some_iff, corrects_iff,
    corrects_iff, htable, decide_eq_true_eq]
  have hword := hmore (lower word.toList)
  tauto

end

/-! ### Lines that do not matter -/

theorem isWordChar_of_isAlphabetic {c : Char} (h : isAlphabetic c) : isWordChar c := by
  rw [isAlphabetic] at h
  rw [isWordChar]
  split
  · rename_i hascii
    rw [if_pos hascii] at h
    rw [isNameChar, h, Bool.true_or, Bool.true_or]
  · rename_i hascii
    rw [if_neg hascii] at h
    simp only [h, Bool.true_or]

/-- No blank is a letter or an apostrophe. -/
theorem separatesWords_of_isBlank {c : Char} (h : isBlank c) : separatesWords c := by
  rw [separatesWords, Bool.not_eq_true', Bool.or_eq_false_iff]
  constructor
  · refine Bool.eq_false_iff.mpr fun hletter => ?_
    rw [isBlank_eq_false_of_isWordChar (isWordChar_of_isAlphabetic hletter)] at h
    cases h
  · rw [beq_eq_false_iff_ne]
    rintro rfl
    revert h
    decide

theorem wordsOfLine_trim (line : List Char) : wordsOfLine (trim line) = wordsOfLine line := by
  obtain ⟨start, ending, heq, hstart, hending⟩ := exists_eq_append_trim_append line
  have hseparates : ∀ {s : List Char}, isBlankText s → ∀ c ∈ s, separatesWords c := fun h c hc =>
    separatesWords_of_isBlank (List.all_eq_true.mp h c hc)
  have hruns : runsWithout separatesWords line = runsWithout separatesWords (trim line) :=
    calc runsWithout separatesWords line
        = runsWithout separatesWords (start ++ trim line ++ ending) := congrArg _ heq
      _ = runsWithout separatesWords (trim line) := by
        rw [runsWithout_append_of_forall (hseparates hending),
          runsWithout_append_of_forall_left (hseparates hstart)]
  rw [wordsOfLine_eq, wordsOfLine_eq, hruns]

/-- The words of some lines that are checked. -/
def checkedIn (ls : List (List Char)) : List String :=
  (ls.filter (!isSignOffAttempt ·)).flatMap wordsOfLine

theorem checkedIn_append (ls ls' : List (List Char)) :
    checkedIn (ls ++ ls') = checkedIn ls ++ checkedIn ls' := by
  rw [checkedIn, List.filter_append, List.flatMap_append, checkedIn, checkedIn]

theorem checkedIn_of_forall_isAttempt {ls : List (List Char)} (h : ∀ line ∈ ls, IsAttempt line) :
    checkedIn ls = [] := by
  have hnone : ls.filter (!isSignOffAttempt ·) = [] :=
    List.filter_eq_nil_iff.mpr fun line hline => by simp [isSignOffAttempt_iff.mpr (h line hline)]
  rw [checkedIn, hnone, List.flatMap_nil]

/-- The lines with visible text have all the words. -/
theorem checkedIn_visibleOf (ls : List (List Char)) : checkedIn (visibleOf ls) = checkedIn ls := by
  induction ls with
  | nil => rfl
  | cons line ls ih =>
    have hline : checkedIn (visibleOf [line]) = checkedIn [line] := by
      have hattempt : isSignOffAttempt (trim line) = isSignOffAttempt line := by
        rw [Bool.eq_iff_iff, isSignOffAttempt_iff, isSignOffAttempt_iff, isAttempt_trim_iff]
      have htrim : checkedIn [trim line] = checkedIn [line] := by
        rw [checkedIn, checkedIn, List.filter_singleton, List.filter_singleton, hattempt]
        cases isSignOffAttempt line <;> simp [wordsOfLine_trim]
      rw [← htrim]
      by_cases hempty : trim line = []
      · rw [visibleOf_eq_nil (List.forall_mem_singleton.mpr (trim_eq_nil_iff.mp hempty)), hempty]
        rfl
      · have hvisible : visibleOf [line] = [trim line] := by simp [visibleOf, hempty]
        rw [hvisible]
    rw [visibleOf_cons, checkedIn_append, hline, ih, ← checkedIn_append, List.singleton_append]

theorem visibleLines_body (message : List Char) :
    visibleLines (Message.body message) = visibleOf (lines message).tail := by
  have hplain : ∀ l ∈ (lines message).tail.dropWhile isBlankText, '\n' ∉ l := fun l hl =>
    lineFeed_notMem_of_mem_lines (List.mem_of_mem_tail ((List.dropWhile_suffix _).mem hl))
  rw [Message.body, visibleLines_trimEnd, visibleLines_unlines hplain, visibleOf_dropWhile]

/-- The words of a commit are those of its subject and of the lines below. -/
theorem checkedWords_eq (c : Commit) :
    checkedWords c = checkedIn [c.subject.toList] ++ checkedIn (lines c.message.toList).tail := by
  have hbody : checkedIn (lines c.body.toList) = checkedIn (lines c.message.toList).tail := by
    rw [← checkedIn_visibleOf, ← visibleLines, Commit.body, String.toList_ofList,
      visibleLines_body, checkedIn_visibleOf]
  rw [← hbody, ← checkedIn_append, List.singleton_append, checkedIn, checkedWords]

/-- Lines that look like sign-offs can be written below the subject. -/
theorem checkedWords_congr {c c' : Commit} {first rest rest' extra : List Char}
    (hc : c.message.toList = first ++ '\n' :: rest)
    (hc' : c'.message.toList = first ++ '\n' :: rest') (hfirst : '\n' ∉ first)
    (h : InsertsLines extra rest rest') (hextra : ∀ line ∈ lines extra, IsAttempt line) :
    checkedWords c' = checkedWords c := by
  have hsubject : c'.subject = c.subject := by
    rw [Commit.subject, Commit.subject, Message.subject, Message.subject, hc, hc',
      lines_append hfirst, lines_append hfirst, List.headD_cons, List.headD_cons]
  have hrest : checkedIn (lines rest') = checkedIn (lines rest) := by
    obtain ⟨above, below, hblank, heq⟩ := h.exists_lines
    rw [heq, checkedIn_append, checkedIn_append, checkedIn_of_forall_isAttempt hextra,
      List.append_nil, ← checkedIn_append, ← checkedIn_visibleOf (above ++ below),
      hblank.visibleOf_eq, checkedIn_visibleOf]
  rw [checkedWords_eq, checkedWords_eq, hsubject, hc, hc', lines_append hfirst,
    lines_append hfirst, List.tail_cons, List.tail_cons, hrest]

/-! ### The rule -/

theorem details_spelling (settings : Settings.Spelling) (c : Commit) :
    (spelling settings c).details =
      .ofList [("checked_words", toString (checkedWords c).length)] := by
  simp only [spelling]

/-- The rule reads off a commit nothing but its words. -/
theorem spelling_congr (settings : Settings.Spelling) {c c' : Commit}
    (h : checkedWords c' = checkedWords c) : spelling settings c' = spelling settings c := by
  simp only [spelling, h]

theorem findings_spelling_enlarged (settings : Settings.Spelling) (c : Commit)
    {ignored : List String} (h : settings.ignoreWords ⊆ ignored) :
    (spelling { settings with ignoreWords := ignored } c).findings =
      (spelling settings c).findings.filter fun f =>
        ∀ word ∈ f.context.get? "actual", ¬IsIgnored ignored (lower word.toList) := by
  have hactual : ∀ word right, (misspelled word right).context.get? "actual" = some word :=
    fun word right => by
      rw [misspelled, Fields.get?_ofList]
      rfl
  rw [findings_spelling, findings_spelling, reported_enlarged h, List.filter_map]
  refine congrArg _ (List.filter_congr fun e _ => ?_)
  simp [hactual]

/-- A finding tells a word as it stands, and what is right. -/
def TellsMisspelling (f : Finding) (e : String × String) : Prop :=
  f.rule = .spell ∧ f.code = .misspelling ∧
    f.context = .ofList [("actual", e.1), ("expected", e.2)]

theorem forall₂_tellsMisspelling (settings : Settings.Spelling) (c : Commit) :
    List.Forall₂ TellsMisspelling (spelling settings c).findings
      (reported settings (checkedWords c)) := by
  rw [findings_spelling, List.forall₂_map_left_iff, List.forall₂_same]
  exact fun e _ => ⟨rfl, rfl, rfl⟩

/-- Every word of the subject and of the lines below, but for lines that look like sign-offs, is
looked up in lower case. What is found is reported once, as it stands first, unless it is to be
ignored. So words that are added to those to be ignored take just their own findings away, and lines
that look like sign-offs can be written below the subject. -/
theorem spelling_exact (settings : Settings.Spelling) (c : Commit) :
    let outcome := spelling settings c
    let words := checkedWords c
    (∀ ws, WordsOf (c.subject.toList :: lines c.body.toList) ws ↔ words = ws) ∧
    outcome.details = .ofList [("checked_words", toString words.length)] ∧
    (∃ reported : List (String × String),
      List.Forall₂ TellsMisspelling outcome.findings reported ∧
      (∀ word right, (word, right) ∈ reported ↔ IsFirst words word ∧
        ¬IsIgnored settings.ignoreWords (lower word.toList) ∧
          Corrects settings (lower word.toList) right) ∧
      (reported.Pairwise fun e e' => words.idxOf e.1 < words.idxOf e'.1) ∧
      (reported.map (lower ·.1.toList)).Nodup ∧
      ∀ low, low ∈ reported.map (lower ·.1.toList) ↔ low ∈ words.map (lower ·.toList) ∧
        ¬IsIgnored settings.ignoreWords low ∧ ∃ right, Corrects settings low right) ∧
    (∀ ignored, settings.ignoreWords ⊆ ignored →
      (spelling { settings with ignoreWords := ignored } c).details = outcome.details ∧
      (spelling { settings with ignoreWords := ignored } c).findings =
        outcome.findings.filter fun f =>
          ∀ word ∈ f.context.get? "actual", ¬IsIgnored ignored (lower word.toList)) ∧
    ∀ (c' : Commit) (first rest rest' extra : List Char),
      c.message.toList = first ++ '\n' :: rest → c'.message.toList = first ++ '\n' :: rest' →
      '\n' ∉ first → InsertsLines extra rest rest' → (∀ line ∈ lines extra, IsAttempt line) →
      spelling settings c' = outcome := by
  intro outcome words
  refine ⟨fun ws => wordsOf_iff, details_spelling settings c,
    ⟨reported settings words, forall₂_tellsMisspelling settings c, fun word right =>
      mem_reported_iff, pairwise_reported settings words, nodup_lower_reported settings words,
      fun low => mem_map_lower_reported_iff⟩,
    fun ignored h => ⟨?_, findings_spelling_enlarged settings c h⟩,
    fun c' first rest rest' extra hc hc' hfirst h hextra =>
      spelling_congr settings (checkedWords_congr hc hc' hfirst h hextra)⟩
  rw [details_spelling]
  exact (details_spelling settings c).symm

/-- A misspelling in both cases, one to be ignored, and a sign-off written between the lines. -/
theorem spelling_exact_signed_off :
    let settings : Settings.Spelling := { ignoreWords := [" ADRESS "] }
    let c : Commit := { message := "Fix teh adress\n\n'Teh' Wich\nok" }
    let signed : Commit :=
      { message := "Fix teh adress\n\n'Teh' Wich\nSigned-off-by: Wich <a@b>\nok" }
    checkedWords c = ["Fix", "teh", "adress", "Teh", "Wich", "ok"] ∧
      List.Forall₂ TellsMisspelling (spelling settings c).findings
        [("teh", "the"), ("Wich", "which")] ∧
      spelling settings signed = spelling settings c := by
  intro settings c signed
  obtain ⟨-, -, -, -, hinsert⟩ := spelling_exact settings c
  have hinserts : InsertsLines "Signed-off-by: Wich <a@b>\n".toList
      ("\n'Teh' Wich\n".toList ++ "ok".toList)
      ("\n'Teh' Wich\n".toList ++ "Signed-off-by: Wich <a@b>\n".toList ++ "ok".toList) :=
    .between (.inr ⟨"\n'Teh' Wich".toList, by decide⟩)
      (.inl (.inr ⟨"Signed-off-by: Wich <a@b>".toList, by decide⟩))
  have hfindings : (spelling settings c).findings =
      [misspelled "teh" "the", misspelled "Wich" "which"] := by
    decide +kernel
  refine ⟨by decide +kernel, ?_, hinsert signed "Fix teh adress".toList _ _ _ (by decide +kernel)
    (by decide +kernel) (by decide) hinserts (by decide +kernel)⟩
  rw [hfindings]
  exact .cons ⟨rfl, rfl, rfl⟩ (.cons ⟨rfl, rfl, rfl⟩ .nil)

end CommitLint.Check
