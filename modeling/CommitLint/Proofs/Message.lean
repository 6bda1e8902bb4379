import CommitLint.Commit
import CommitLint.Proofs.Text.Pieces
import CommitLint.Proofs.Text.Trim

/-!
# Subjects of messages

A subject is a line of its message without the blanks at its end: it holds no line feed
(`lineFeed_notMem_subject`), and where it has visible text the message has it too
(`isEmpty_eq_false`).
-/

namespace CommitLint

open Text

namespace Message

/-- A subject consists of characters of one line of the message, if the message has lines. -/
theorem subject_subset_head (message : List Char) :
    subject message = [] ∨ ∃ l ∈ lines message, subject message ⊆ l := by
  rw [subject]
  cases h : lines message with
  | nil => exact Or.inl rfl
  | cons l ls => exact Or.inr ⟨l, by simp, trimEnd_subset l⟩

/-- A subject consists of characters of the message. -/
theorem subject_subset (message : List Char) : subject message ⊆ message := by
  rcases subject_subset_head message with h | ⟨l, hl, hsub⟩
  · simp [h]
  · exact fun c hc => subset_of_mem_lines hl (hsub hc)

theorem lineFeed_notMem_subject (message : List Char) : '\n' ∉ subject message := by
  rcases subject_subset_head message with h | ⟨l, hl, hsub⟩
  · simp [h]
  · exact fun hc => lineFeed_notMem_of_mem_lines hl (hsub hc)

end Message

namespace Commit

theorem toList_subject (c : Commit) : c.subject.toList = Message.subject c.message.toList :=
  String.toList_ofList

theorem lineFeed_notMem_subject (c : Commit) : '\n' ∉ c.subject.toList := by
  rw [toList_subject]
  exact Message.lineFeed_notMem_subject c.message.toList

/-- A commit with visible text in its subject is not empty. -/
theorem isEmpty_eq_false {c : Commit} (h : isBlankText c.subject.toList = false) :
    c.isEmpty = false := by
  rw [isBlankText, List.all_eq_false, toList_subject] at h
  obtain ⟨ch, hch, hvisible⟩ := h
  rw [isEmpty, isBlankText, List.all_eq_false]
  exact ⟨ch, Message.subject_subset c.message.toList hch, hvisible⟩

end Commit

end CommitLint
