import CommitLint.Proofs.Rule.Activation
import CommitLint.Proofs.Text.Lower

/-!
# Cleaning a name twice

Cleaning a name takes blanks off its ends, then quotes, then the blanks that stood within the
quotes. What is left of it, its core (`HasCore`), has no blanks at its ends, but it may have quotes
there: in `' "spell" '` the blanks stand between two pairs of quotes, and only the outer pair goes.
Lower case does not touch any of this, as blanks and quotes are caseless. So a cleaned name is left
as it is by the next cleaning exactly if the core has no quotes at its ends
(`cleanName_cleanName_iff`), and gets shorter otherwise (`length_cleanName_lt`).

A name that is requoted in this way means no rule, but may mean one when it has been cleaned before.
Only then does it make a difference whether the names and entries of a configuration are cleaned in
advance (`isActive_cleanName`, `ofName?_cleanName_iff`).
-/

namespace CommitLint.Rule

open Text

/-! ### The core of a name -/

/-- A name is left with its core when the blanks at its ends go, then the quotes at the ends of what
remains, then the blanks at the ends of that. -/
def HasCore (name core : List Char) : Prop :=
  ∃ outer inner,
    TrimsTo isBlank name outer ∧ TrimsTo isQuote outer inner ∧ TrimsTo isBlank inner core

/-- A text with a quote at its beginning or its end. -/
def isQuoted (s : List Char) : Bool := s.head?.any isQuote || s.getLast?.any isQuote

/-- A name in quotes with a core that has a quote at one of its ends itself. -/
def IsRequoted (name : List Char) : Prop := ∃ core, HasCore name core ∧ isQuoted core

variable {name core : List Char}

/-- Without quotes at its ends a text is left as it is when quotes are trimmed, and only then. -/
theorem isQuoted_eq_false_iff {s : List Char} : isQuoted s = false ↔ trimBoth isQuote s = s := by
  rw [isQuoted, Bool.or_eq_false_iff, trimBoth_eq_self_iff]

theorem hasCore_iff : HasCore name core ↔ trim (trimBoth isQuote (trim name)) = core := by
  simp only [HasCore, trimsTo_iff, trim, exists_eq_left', exists_and_left]

theorem isRequoted_iff : IsRequoted name ↔ isQuoted (trim (trimBoth isQuote (trim name))) := by
  simp only [IsRequoted, hasCore_iff, exists_eq_left']

instance (name : List Char) : Decidable (IsRequoted name) := decidable_of_iff _ isRequoted_iff.symm

/-- Blanks stand between the quotes that go and the quotes that stay. -/
theorem IsRequoted.exists_isBlank (h : IsRequoted name) : ∃ c ∈ trim name, isBlank c := by
  by_contra! hnone
  have hplain : ∀ c ∈ trimBoth isQuote (trim name), isBlank c = false := fun c hc =>
    Bool.eq_false_iff.mpr (hnone c (trimBoth_subset isQuote _ hc))
  have hends := isQuoted_eq_false_iff.mpr (trimBoth_trimBoth isQuote (trim name))
  rw [isRequoted_iff, trim_eq_self hplain, hends] at h
  exact Bool.noConfusion h

/-! ### Ends in lower case -/

theorem isCaseless_of_isQuote {c : Char} (h : isQuote c) : isCaseless c := by
  simp only [isQuote, Bool.or_eq_true, beq_iff_eq] at h
  obtain (rfl | rfl) | rfl := h <;> decide +kernel

theorem isQuoted_lower (s : List Char) : isQuoted (lower s) = isQuoted s := by
  rw [isQuoted, isQuoted, any_head?_lower fun _ => isCaseless_of_isQuote,
    any_getLast?_lower fun _ => isCaseless_of_isQuote]

theorem trim_cleanName (name : List Char) : trim (cleanName name) = cleanName name :=
  (trimBoth_lower_eq_self_iff (fun _ => isCaseless_of_isBlank) _).mpr (trim_trim _)

theorem isQuoted_cleanName_iff : isQuoted (cleanName name) ↔ IsRequoted name := by
  rw [cleanName, isQuoted_lower, isRequoted_iff]

/-- A cleaned name has no blanks at its ends and is in lower case: the next cleaning takes quotes
away, and the blanks within them. -/
theorem cleanName_cleanName_eq (name : List Char) :
    cleanName (cleanName name) = trim (trimBoth isQuote (cleanName name)) := by
  have hlower : ∀ c ∈ cleanName name, lowerChar c = [c] := fun _ => lowerChar_eq_of_mem_lower
  rw [cleanName, trim_cleanName]
  exact lower_eq_self fun c hc =>
    hlower c (trimBoth_subset isQuote _ (trimBoth_subset isBlank _ hc))

/-! ### Cleaning again -/

/-- Quotes that a cleaned name still has are lost for good. -/
theorem length_cleanName_lt (h : IsRequoted name) :
    (cleanName (cleanName name)).length < (cleanName name).length := by
  have hquotes := trimBoth_isInfix isQuote (cleanName name)
  have hblanks := trimBoth_isInfix isBlank (trimBoth isQuote (cleanName name))
  have hne : (trimBoth isQuote (cleanName name)).length ≠ (cleanName name).length := fun heq => by
    have hends := isQuoted_eq_false_iff.mpr (hquotes.eq_of_length heq)
    rw [← isQuoted_cleanName_iff, hends] at h
    exact Bool.noConfusion h
  calc (cleanName (cleanName name)).length
      = (trim (trimBoth isQuote (cleanName name))).length := by rw [cleanName_cleanName_eq]
    _ ≤ (trimBoth isQuote (cleanName name)).length := hblanks.length_le
    _ < (cleanName name).length := lt_of_le_of_ne hquotes.length_le hne

theorem cleanName_cleanName_iff :
    cleanName (cleanName name) = cleanName name ↔ ¬IsRequoted name := by
  refine ⟨fun hsame hquoted => ?_, fun hnot => ?_⟩
  · have hlt := length_cleanName_lt hquoted
    rw [hsame] at hlt
    exact absurd hlt (Nat.lt_irrefl _)
  · have hends : trimBoth isQuote (cleanName name) = cleanName name := by
      rw [← isQuoted_cleanName_iff, Bool.not_eq_true] at hnot
      exact isQuoted_eq_false_iff.mp hnot
    rw [cleanName_cleanName_eq, hends, trim_cleanName]

/-! ### Names and entries that are cleaned in advance -/

/-- A requoted entry names nothing but requoted names. -/
theorem IsRequoted.of_cleanName_eq {entry : List Char} (h : IsRequoted entry)
    (heq : cleanName entry = cleanName name) : IsRequoted name := by
  rwa [← isQuoted_cleanName_iff, heq, isQuoted_cleanName_iff] at h

theorem isListed_cleanName (hname : ¬IsRequoted name) {entries : List (List Char)}
    (hentries : ∀ e ∈ entries, IsRequoted e → cleanName (cleanName e) ≠ cleanName name) :
    isListed (cleanName name) (entries.map cleanName) = isListed name entries := by
  have hsame : ∀ e ∈ entries,
      cleanName (cleanName e) = cleanName name ↔ cleanName e = cleanName name := fun e he => by
    by_cases hquoted : IsRequoted e
    · exact iff_of_false (hentries e he hquoted) fun heq => hname (hquoted.of_cleanName_eq heq)
    · rw [cleanName_cleanName_iff.mpr hquoted]
  rw [Bool.eq_iff_iff, isListed, isListed, List.any_map, List.any_eq_true, List.any_eq_true]
  simp only [Function.comp, beq_iff_eq, cleanName_cleanName_iff.mpr hname]
  exact exists_congr fun e => and_congr_right (hsame e)

theorem isActive_cleanName (hname : ¬IsRequoted name) {enabled disabled : List (List Char)}
    (hentries : ∀ e ∈ enabled ++ disabled,
      IsRequoted e → cleanName (cleanName e) ≠ cleanName name) :
    isActive (cleanName name) (enabled.map cleanName) (disabled.map cleanName) =
      isActive name enabled disabled := by
  obtain ⟨henabled, hdisabled⟩ := List.forall_mem_append.mp hentries
  rw [isActive, isActive, isListed_cleanName hname henabled, isListed_cleanName hname hdisabled,
    cleanName_cleanName_iff.mpr hname]

/-- A requoted name means no rule, since the name of a rule has no quotes. -/
theorem ofName?_eq_none_of_isRequoted (h : IsRequoted name) : ofName? name = none := by
  rw [Option.eq_none_iff_forall_ne_some]
  intro rule hrule
  have hclean : cleanName name = rule.name.toList := ofName?_eq_some_iff.mp hrule
  have hsame : cleanName (cleanName name) = cleanName name := by rw [hclean, cleanName_name]
  exact cleanName_cleanName_iff.mp hsame h

theorem ofName?_cleanName_iff :
    ofName? (cleanName name) = ofName? name ↔
      (IsRequoted name → ofName? (cleanName name) = none) := by
  by_cases h : IsRequoted name
  · rw [ofName?_eq_none_of_isRequoted h]
    exact (imp_iff_right h).symm
  · refine iff_of_true ?_ fun hquoted => absurd hquoted h
    rw [ofName?, ofName?, cleanName_cleanName_iff.mpr h]

/-- Cleaning a cleaned name changes nothing exactly if the name is not requoted, as any name is that
has no blanks inside; a requoted one gets shorter. Whether a rule is active is decided as before
when its name and the entries of the lists are cleaned in advance, unless the name is requoted, or
an entry is and comes out as the name only when it is cleaned again. A name that is cleaned in
advance means the same rule as before, unless it is requoted and comes out as the name of a rule. -/
theorem cleanName_normal_iff (name : List Char) :
    (cleanName (cleanName name) = cleanName name ↔ ¬IsRequoted name) ∧
      (IsRequoted name → (cleanName (cleanName name)).length < (cleanName name).length ∧
        ∃ c ∈ trim name, isBlank c) ∧
      (¬IsRequoted name → ∀ enabled disabled : List (List Char),
        (∀ e ∈ enabled ++ disabled, IsRequoted e → cleanName (cleanName e) ≠ cleanName name) →
          isActive (cleanName name) (enabled.map cleanName) (disabled.map cleanName) =
            isActive name enabled disabled) ∧
      (ofName? (cleanName name) = ofName? name ↔
        (IsRequoted name → ofName? (cleanName name) = none)) := by
  refine ⟨cleanName_cleanName_iff, fun h => ⟨length_cleanName_lt h, h.exists_isBlank⟩, ?_,
    ofName?_cleanName_iff⟩
  exact fun hname _ _ hentries => isActive_cleanName hname hentries

/-- A name with quotes and blanks around it, an enabled entry that is longer in lower case, and a
disabled entry that is requoted but comes out as another name. -/
theorem cleanName_normal_iff_signature :
    let name := "\t'Signature \"".toList
    let enabled := ["\u3000\"İΑΣ'".toList]
    let disabled := ["\x60SIGNATURE".toList, "' \"spell\" '".toList]
    cleanName (cleanName name) = cleanName name ∧ IsRequoted "' \"spell\" '".toList ∧
      isActive (cleanName name) (enabled.map cleanName) (disabled.map cleanName) = false ∧
      ofName? (cleanName "' \"spell\" '".toList) ≠ ofName? "' \"spell\" '".toList := by
  intro name enabled disabled
  obtain ⟨hsame, -, hactive, -⟩ := cleanName_normal_iff name
  obtain ⟨-, -, -, hmeaning⟩ := cleanName_normal_iff "' \"spell\" '".toList
  have hname : ¬IsRequoted name := by decide +kernel
  have hspell : IsRequoted "' \"spell\" '".toList := by decide +kernel
  refine ⟨hsame.mpr hname, hspell, ?_, fun heq => ?_⟩
  · rw [hactive hname enabled disabled (by decide +kernel)]
    decide +kernel
  · have hnone := hmeaning.mp heq hspell
    revert hnone
    decide +kernel

/-- Quotes within quotes, with blanks in between, outlast the first cleaning: cleaning is not
idempotent, a rule that is off by default seems to be on, and its name is not recognized. -/
theorem not_forall_cleanName_cleanName :
    (¬∀ name, cleanName (cleanName name) = cleanName name) ∧
      (¬∀ name enabled disabled, isActive (cleanName name) (enabled.map cleanName)
        (disabled.map cleanName) = isActive name enabled disabled) ∧
      ¬∀ name, ofName? (cleanName name) = ofName? name := by
  refine ⟨fun h => ?_, fun h => ?_, fun h => ?_⟩
  · have hsame := h "' \"spell\" '".toList
    revert hsame
    decide +kernel
  · have hsame := h "' \"spell\" '".toList [] []
    revert hsame
    decide +kernel
  · have hsame := h "' \"spell\" '".toList
    revert hsame
    decide +kernel

end CommitLint.Rule
