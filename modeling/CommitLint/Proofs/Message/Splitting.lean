import CommitLint.Proofs.Message
import CommitLint.Proofs.Text.Find
import CommitLint.Proofs.Text.Unlines

/-!
# Subject and body stand for the message

A message is split once, and what it is split into can be put together and split again: a subject, a
blank line and a body make a message with that subject and that body. Nothing with visible text is
lost on the way, since the lines after the first are those of the body, but for blank lines above
and below them and blanks after the last one (`split_stable`).

The body is joined from lines that had lost their line ends, one carriage return each. If a second
carriage return is left at the end of a line, it becomes part of a line end when the line is joined
to the next, and the body has other lines than the message. So the message must not have two
carriage returns before a line feed. Nothing else can go wrong: the last line of a body is trimmed
anyway.
-/

namespace CommitLint

open Text

namespace Message

/-! ### The lines of a body -/

/-- The lines of a body among those of the message, and the body as those lines joined. -/
theorem exists_lines_body {message : List Char} (h : ¬"\r\r\n".toList <:+: message) :
    ∃ above shown below, (lines message).tail = above ++ shown ++ below ∧
      (∀ l ∈ above, isBlankText l) ∧ (∀ l ∈ below, isBlankText l) ∧
      AddsBlanks (lines (body message)) shown ∧ unlines (lines (body message)) = body message ∧
      ∀ l ∈ (lines (body message)).head?, ¬isBlankText l := by
  have hcut : (lines message).tail.takeWhile isBlankText ++
      (lines message).tail.dropWhile isBlankText = (lines message).tail :=
    List.takeWhile_append_dropWhile
  have hsuffix : (lines message).tail.dropWhile isBlankText <:+ lines message :=
    (List.dropWhile_suffix _).trans (List.tail_suffix _)
  have hwhole : ∀ l ∈ ((lines message).tail.dropWhile isBlankText).dropLast, IsWhole l := by
    obtain ⟨start, hstart⟩ := hsuffix
    refine fun l hl => isWhole_of_mem_dropLast_lines h ?_
    rw [← hstart, List.dropLast_append_of_ne_nil fun hnil => by simp [hnil] at hl]
    exact List.mem_append_right start hl
  obtain ⟨shown, below, heq, hbelow, hshown, hjoin⟩ := exists_addsBlanks
    (fun l hl => lineFeed_notMem_of_mem_lines (hsuffix.subset hl)) hwhole
  refine ⟨(lines message).tail.takeWhile isBlankText, shown, below, ?_,
    fun l hl => List.mem_takeWhile_imp hl, hbelow, hshown, hjoin,
    hshown.isBlankText_head? fun l hl => ?_⟩
  · rw [List.append_assoc, ← heq, hcut]
  · have hstop := List.head?_dropWhile_not isBlankText (lines message).tail
    rw [heq, List.head?_append, hl, Option.some_or] at hstop
    simpa using hstop

theorem trimEnd_body (message : List Char) : trimEnd (body message) = body message :=
  trimEnd_trimEnd _

theorem trimEnd_subject (message : List Char) : trimEnd (subject message) = subject message :=
  trimEnd_trimEnd _

/-! ### Putting a message together -/

/-- The lines of a subject, a blank line and a body. -/
theorem lines_subject_append (message b : List Char) :
    lines (subject message ++ '\n' :: '\n' :: b) = subject message :: [] :: lines b := by
  have hwhole : IsWhole (subject message) := by
    rw [← trimEnd_subject]
    exact isWhole_trimEnd (lineFeed_notMem_subject message)
  rw [lines_append hwhole.1, hwhole.2, ← List.nil_append ('\n' :: b), lines_append List.not_mem_nil]
  rfl

theorem subject_append (message b : List Char) :
    subject (subject message ++ '\n' :: '\n' :: b) = subject message := by
  rw [subject, lines_subject_append, List.headD_cons, trimEnd_subject]

/-- A body below a subject and a blank line is a body again. -/
theorem body_append {message : List Char} (h : ¬"\r\r\n".toList <:+: message) :
    body (subject message ++ '\n' :: '\n' :: body message) = body message := by
  obtain ⟨-, -, -, -, -, -, -, hjoin, hvisible⟩ := exists_lines_body h
  have hdrop : (lines (body message)).dropWhile isBlankText = lines (body message) := by
    cases hlines : lines (body message) with
    | nil => rfl
    | cons l ls => exact List.dropWhile_cons_of_neg (hvisible l (by rw [hlines]; rfl))
  rw [body, lines_subject_append, List.tail_cons, List.dropWhile_cons_of_pos rfl, hdrop, hjoin,
    trimEnd_body]

end Message

namespace Commit

/-- Subject and body can be put together to a message that has both. The subject is a line, neither
of the two ends in a blank, the body begins with a visible line unless there is none, and the lines
after the first are those of the body, but for blank lines above and below, and blanks after the
last one. -/
theorem split_stable {message : String} (h : ¬"\r\r\n".toList <:+: message.toList) :
    let c : Commit := { message := message }
    let again : Commit := { message := c.subject ++ "\n\n" ++ c.body }
    again.subject = c.subject ∧ again.body = c.body ∧
      ('\n' ∉ c.subject.toList ∧ ∀ ch ∈ c.subject.toList.getLast?, isBlank ch = false) ∧
      ((∀ ch ∈ c.body.toList.getLast?, isBlank ch = false) ∧
        (c.body ≠ "" → ∃ first ∈ (lines c.body.toList).head?, ¬isBlankText first)) ∧
      ∃ above shown below, (lines message.toList).tail = above ++ shown ++ below ∧
        (∀ l ∈ above, isBlankText l) ∧ (∀ l ∈ below, isBlankText l) ∧
        AddsBlanks (lines c.body.toList) shown := by
  intro c again
  have hsubject : c.subject.toList = Message.subject message.toList := String.toList_ofList
  have hbody : c.body.toList = Message.body message.toList := String.toList_ofList
  have hagain : again.message.toList =
      Message.subject message.toList ++ '\n' :: '\n' :: Message.body message.toList := by
    rw [String.toList_append, String.toList_append, hsubject, hbody, List.append_assoc]
    rfl
  obtain ⟨above, shown, below, hlines, habove, hbelow, hshown, hjoin, hvisible⟩ :=
    Message.exists_lines_body h
  refine ⟨?_, ?_, ⟨c.lineFeed_notMem_subject, ?_⟩, ⟨?_, fun hne => ?_⟩, above, shown, below, hlines,
    habove, hbelow, hbody ▸ hshown⟩
  · rw [subject, hagain, Message.subject_append, subject]
  · rw [body, hagain, Message.body_append h, body]
  · rw [hsubject]
    exact isBlank_getLast?_trimEnd
  · rw [hbody]
    exact isBlank_getLast?_trimEnd
  · rw [hbody]
    cases hhead : (lines (Message.body message.toList)).head? with
    | some first => exact ⟨first, rfl, hvisible first hhead⟩
    | none =>
      -- A text without lines is empty, and so is the body that is joined from them.
      rw [List.head?_eq_none_iff.mp hhead] at hjoin
      exact absurd (String.toList_eq_nil_iff.mp (hbody.trans hjoin.symm)) hne

/-- A message of another system, with blanks around the lines of its body, carriage returns within a
line and before the end, and a blank line among the others. -/
theorem split_stable_untidy :
    let message := "feat: a\t\r\n \r\n\r\n  b\rc \r\n\t\r\nd\r\r\u3000\r\n \n"
    let c : Commit := { message := message }
    let again : Commit := { message := c.subject ++ "\n\n" ++ c.body }
    ¬"\r\r\n".toList <:+: message.toList ∧ again.body = c.body ∧
      c.body.toList = "  b\rc \n\t\nd".toList := by
  intro message c again
  have hnot : ¬"\r\r\n".toList <:+: message.toList := by
    rw [← occurs_iff]
    decide
  refine ⟨hnot, (split_stable hnot).2.1, ?_⟩
  rw [body, String.toList_ofList]
  decide

end Commit

end CommitLint
