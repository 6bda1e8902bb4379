import CommitLint.Proofs.Text.Runs
import CommitLint.Proofs.Text.Trim

/-!
# Words

Words are the maximal runs between blanks, so a blank parts the words before it from those after it
(`words_append_cons`). A text has no words exactly if it is blank (`words_eq_nil_iff`). Otherwise
it has a last one, which is where it is in the text: nothing but blanks follow it, and a blank or
nothing precedes it (`IsLastWord`).
-/

namespace CommitLint.Text

theorem words_append_cons {c : Char} (hc : isBlank c) (s t : List Char) :
    words (s ++ c :: t) = words s ++ words t :=
  runsWithout_append_cons hc s t

theorem words_of_isBlankText {s : List Char} (h : isBlankText s) : words s = [] :=
  runsWithout_of_forall (List.all_eq_true.mp h)

theorem words_append_of_isBlankText {after : List Char} (h : isBlankText after) (s : List Char) :
    words (s ++ after) = words s :=
  runsWithout_append_of_forall (List.all_eq_true.mp h) s

theorem words_of_plain {w : List Char} (hne : w ≠ []) (h : ∀ c ∈ w, isBlank c = false) :
    words w = [w] :=
  runsWithout_of_plain hne h

theorem ne_nil_of_mem_words {s w : List Char} (h : w ∈ words s) : w ≠ [] := by
  simpa using (List.mem_filter.mp h).2

/-! ### The last word -/

/-- Where the last word of a text stands. -/
structure IsLastWord (s before word after : List Char) : Prop where
  eq : s = before ++ word ++ after
  ne_nil : word ≠ []
  plain : ∀ c ∈ word, isBlank c = false
  before_blank : before = [] ∨ ∃ b c, before = b ++ [c] ∧ isBlank c
  after_blank : isBlankText after

theorem IsLastWord.words_eq {s before word after : List Char}
    (h : IsLastWord s before word after) : words s = words before ++ [word] := by
  rw [h.eq, words_append_of_isBlankText h.after_blank]
  rcases h.before_blank with rfl | ⟨b, c, rfl, hc⟩
  · exact words_of_plain h.ne_nil h.plain
  · have hstart : words (b ++ [c]) = words b := by
      rw [words_append_cons hc]
      exact List.append_nil _
    rw [hstart, List.append_assoc, List.singleton_append, words_append_cons hc,
      words_of_plain h.ne_nil h.plain]

theorem exists_isLastWord {s : List Char} (h : ¬isBlankText s) :
    ∃ before word after, IsLastWord s before word after := by
  obtain ⟨after, hs, hafter⟩ := exists_eq_dropEndWhile_append isBlank s
  obtain ⟨word, hword, hplain⟩ := exists_eq_dropEndWhile_append (!isBlank ·) (trimEnd s)
  have hne : trimEnd s ≠ [] := fun hnil =>
    h (List.all_eq_true.mpr (dropEndWhile_eq_nil_iff.mp hnil))
  refine ⟨dropEndWhile (!isBlank ·) (trimEnd s), word, after, ?_⟩
  generalize hb : dropEndWhile (!isBlank ·) (trimEnd s) = before at hword
  have hbefore : before = [] ∨ ∃ b c, before = b ++ [c] ∧ isBlank c := by
    refine (List.eq_nil_or_concat before).imp_right fun ⟨b, c, hbc⟩ => ?_
    rw [List.concat_eq_append] at hbc
    exact ⟨b, c, hbc, by simpa using eq_false_of_dropEndWhile_eq (hb.trans hbc)⟩
  refine ⟨by rw [← hword]; exact hs, ?_, fun c hc => by simpa using hplain c hc, hbefore,
    List.all_eq_true.mpr hafter⟩
  -- Were there no word, the text before the blanks would end in a blank itself.
  rintro rfl
  rw [List.append_nil] at hword
  rcases hbefore with rfl | ⟨b, c, rfl, hc⟩
  · exact hne hword
  · exact Bool.eq_false_iff.mp (eq_false_of_dropEndWhile_eq hword) hc

theorem words_eq_nil_iff {s : List Char} : words s = [] ↔ isBlankText s := by
  refine ⟨fun hnil => by_contra fun h => ?_, words_of_isBlankText⟩
  obtain ⟨before, word, after, hlast⟩ := exists_isLastWord h
  rw [hlast.words_eq] at hnil
  simp at hnil

end CommitLint.Text
