import CommitLint.Proofs.Check.Family
import CommitLint.Proofs.Trailer

/-!
# What is reported about sign-offs

Two kinds of lines decide about the sign-offs of a body: those that are sign-offs, and those that
look like one. The former are counted, and every one of them is also one of the latter
(`IsSignOff.isAttempt`). So the three things that can be wrong (`SignOffFault`) exclude each other:
nothing looks like a sign-off, what does is malformed, or there are more sign-offs than one.
-/

namespace CommitLint.Check

open Text Trailer

/-- What is wrong with the sign-offs among some lines. -/
inductive SignOffFault (settings : Settings.SignOff) (ls : List (List Char)) : Code → Prop
  | missing : (∀ line ∈ ls, ¬IsAttempt line) → SignOffFault settings ls .missingSignoff
  | malformed : (∃ line ∈ ls, IsAttempt line) → (∀ line ∈ ls, ¬IsSignOff line) →
      SignOffFault settings ls .invalidSignoffFormat
  | multiple : 1 < ls.countP (IsSignOff ·) → settings.allowMultiple = false →
      SignOffFault settings ls .multipleSignoffs

theorem countSignOffs_eq (body : List Char) :
    countSignOffs body = (lines body).countP (IsSignOff ·) := by
  refine List.countP_congr fun line _ => ?_
  rw [isSignOff_iff, decide_eq_true_eq]

theorem any_isSignOffAttempt_iff {ls : List (List Char)} :
    ls.any isSignOffAttempt = true ↔ ∃ line ∈ ls, IsAttempt line := by
  simp only [List.any_eq_true, isSignOffAttempt_iff]

theorem reports_signOffFindings_iff {settings : Settings.SignOff} {body : List Char} {code : Code} :
    Reports (signOffFindings settings body) code ↔ SignOffFault settings (lines body) code := by
  have hnone : countSignOffs body = 0 ↔ ∀ line ∈ lines body, ¬IsSignOff line := by
    rw [countSignOffs_eq, List.countP_eq_zero]
    simp only [decide_eq_true_eq]
  have hmany : (1 < countSignOffs body && !settings.allowMultiple) = true ↔
      1 < (lines body).countP (IsSignOff ·) ∧ settings.allowMultiple = false := by
    rw [Bool.and_eq_true, decide_eq_true_eq, Bool.not_eq_true', countSignOffs_eq]
  rw [signOffFindings]
  constructor
  · intro h
    split at h
    · rename_i hcount
      split at h
      · rename_i hattempt
        exact reports_singleton.mp h ▸
          .malformed (any_isSignOffAttempt_iff.mp hattempt) (hnone.mp hcount)
      · rename_i hattempt
        refine reports_singleton.mp h ▸ .missing fun line hline hline' => hattempt ?_
        exact any_isSignOffAttempt_iff.mpr ⟨line, hline, hline'⟩
    · split at h
      · rename_i hcount
        obtain ⟨hcount, hallow⟩ := hmany.mp hcount
        exact reports_singleton.mp h ▸ .multiple hcount hallow
      · exact absurd h reports_nil
  · intro h
    cases h with
    | missing hattempt =>
      have hsignOff : ∀ line ∈ lines body, ¬IsSignOff line := fun line hline h =>
        hattempt line hline h.isAttempt
      rw [if_pos (hnone.mpr hsignOff), if_neg, reports_singleton]
      rintro hany
      obtain ⟨line, hline, hline'⟩ := any_isSignOffAttempt_iff.mp hany
      exact hattempt line hline hline'
    | malformed hattempt hsignOff =>
      rw [if_pos (hnone.mpr hsignOff), if_pos (any_isSignOffAttempt_iff.mpr hattempt),
        reports_singleton]
    | multiple hcount hallow =>
      rw [if_neg, if_pos (hmany.mpr ⟨hcount, hallow⟩), reports_singleton]
      rw [countSignOffs_eq]
      omega

/-- The finding on too many sign-offs tells how many there are. -/
theorem context_multipleSignoffs {settings : Settings.SignOff} {body : List Char} {f : Finding}
    (hf : f ∈ signOffFindings settings body) (hcode : f.code = .multipleSignoffs) :
    f.context = .ofList [("signoff_count", toString (countSignOffs body))] := by
  rw [signOffFindings] at hf
  split_ifs at hf
  · cases (List.mem_singleton.mp hf) ▸ hcode
  · cases (List.mem_singleton.mp hf) ▸ hcode
  · rw [List.mem_singleton.mp hf]
  · exact absurd hf List.not_mem_nil

/-- A line is a sign-off if and only if, blanks around it aside, it is written from a name and a
mail address, and then it also looks like one. The details tell how many there are. At most one
thing is reported, and it is what is wrong: that no line looks like a sign-off, that one does but
none is, or that several are where they are not allowed. -/
theorem signOff_exact (settings : Settings.SignOff) (c : Commit) :
    let ls := lines c.body.toList
    let outcome := signOff settings c
    let count := ls.countP (IsSignOff ·)
    (∀ line, isSignOff line = true ↔ ∃ name user host,
      trim line = signOffStart ++ name ++ " <".toList ++ user ++ '@' :: host ++ ">".toList ∧
      name ≠ [] ∧ '<' ∉ name ∧ user ≠ [] ∧ host ≠ [] ∧
      ∀ c ∈ user ++ host, c ≠ '<' ∧ c ≠ '>' ∧ isBlank c = false) ∧
    (∀ line, isSignOff line = true → isSignOffAttempt line = true) ∧
    outcome.details = .ofList [("signoff_count", toString count)] ∧
    (∀ code, Reports outcome.findings code ↔ SignOffFault settings ls code) ∧
    outcome.findings.length ≤ 1 ∧
    ∀ f ∈ outcome.findings, f.code = .multipleSignoffs →
      f.context = .ofList [("signoff_count", toString count)] := by
  intro ls outcome count
  have hcount : countSignOffs c.body.toList = count := countSignOffs_eq c.body.toList
  have hfindings : outcome.findings = signOffFindings settings c.body.toList := by
    simp only [outcome, signOff]
  refine ⟨fun line => isSignOff_iff.trans isSignOff_iff_exists, fun line h => ?_, ?_,
    fun code => ?_, (oneOf_signOff settings c).length_le, fun f hf hcode => ?_⟩
  · exact isSignOffAttempt_iff.mpr (isSignOff_iff.mp h).isAttempt
  · simp only [outcome, signOff, hcount]
  · rw [hfindings, reports_signOffFindings_iff]
  · rw [← hcount]
    exact context_multipleSignoffs (hfindings ▸ hf) hcode

/-- Two sign-offs, one with two at signs in its address and one that is indented, among lines that
only look like one. -/
theorem signOff_exact_untidy :
    let settings : Settings.SignOff := { allowMultiple := false }
    let c : Commit :=
      { message := "fix\n\nSigned off by: A\nSigned-off-by: B <b@c@d>\n\tSigned-off-by: E <e@f> \n" }
    (signOff settings c).details = .ofList [("signoff_count", "2")] ∧
      Reports (signOff settings c).findings .multipleSignoffs := by
  intro settings c
  obtain ⟨-, -, hdetails, hreports, -⟩ := signOff_exact settings c
  have hcount : (lines c.body.toList).countP (IsSignOff ·) = 2 := by decide +kernel
  rw [hcount] at hdetails
  exact ⟨hdetails, (hreports _).mpr (.multiple (by rw [hcount]; decide) rfl)⟩

end CommitLint.Check
