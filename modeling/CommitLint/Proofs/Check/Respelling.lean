import CommitLint.Engine
import CommitLint.Proofs.Message
import CommitLint.Proofs.Text.LineEnd
import CommitLint.Verification

/-!
# Spellings of a message that no rule tells apart

Carriage returns before the line feeds of a message, and blanks at its end, make it another message
of the same lines, or of lines that are extended by blanks (`Message.Respells.blankExtension`). Of a
message the rules see no more than the subject, the body, whether there is visible text, and whether
the second line is blank. None of the four depends on such an extension
(`Message.Respells.looksLike`), so every rule says the same about both (`Rule.check_congr`).

The one rule that hands the commit itself to somebody else is the rule on signers. It says the same
if its verifier does, as git does, which is told the hash only.
-/

namespace CommitLint

open Text

/-- What a message is respelled to: it gets carriage returns before all its line feeds, if it has
none so far, or blanks at its end. -/
inductive Message.Respells (m : List Char) : List Char → Prop
  | carriageReturns : '\r' ∉ m → Respells m (replaceChar '\n' ['\r', '\n'] m)
  | blanks {ending : List Char} : isBlankText ending → Respells m (m ++ ending)

/-- A commit looks to the rules like another one. -/
structure Commit.LooksLike (c' c : Commit) : Prop where
  subject : c'.subject = c.subject
  body : c'.body = c.body
  isEmpty : c'.isEmpty = c.isEmpty
  blankLine : Check.blankLineFindings c'.message.toList = Check.blankLineFindings c.message.toList
  hash : c'.hash = c.hash
  signature : c'.signature = c.signature

/-! ### What is seen of a message -/

/-- A missing second line is as good as a blank one. -/
theorem Check.blankLineFindings_eq (message : List Char) :
    blankLineFindings message =
      if isBlankText ((lines message).tail.headD []) then []
      else
        [{ rule := .commitBody
           code := .missingBlankLine
           message := "Subject and body must be separated by a blank line" }] := by
  rw [blankLineFindings]
  rcases lines message with _ | ⟨first, _ | ⟨second, more⟩⟩
  · rfl
  · rfl
  · rfl

namespace Message.Respells

variable {m m' : List Char}

theorem blankExtension (h : Respells m m') : BlankExtension (lines m) (lines m') := by
  cases h with
  | carriageReturns h => exact lines_replaceChar h ▸ .refl (lines m)
  | blanks h => exact blankExtension_lines m h

theorem isBlankText_eq (h : Respells m m') : isBlankText m' = isBlankText m := by
  cases h with
  | carriageReturns _ => exact isBlankText_replaceChar m
  | blanks h => rw [isBlankText, List.all_append, ← isBlankText, ← isBlankText, h, Bool.and_true]

theorem subject_eq (h : Respells m m') : subject m' = subject m := h.blankExtension.trimEnd_headD

theorem body_eq (h : Respells m m') : body m' = body m :=
  h.blankExtension.tail.dropWhile.trimEnd_unlines

theorem blankLineFindings_eq (h : Respells m m') :
    Check.blankLineFindings m' = Check.blankLineFindings m := by
  rw [Check.blankLineFindings_eq, Check.blankLineFindings_eq,
    h.blankExtension.tail.isBlankText_headD]

/-- A commit with its message respelled looks the same. -/
theorem looksLike {c : Commit} {message : String} (h : Respells c.message.toList message.toList) :
    { c with message := message }.LooksLike c where
  subject := congrArg String.ofList h.subject_eq
  body := congrArg String.ofList h.body_eq
  isEmpty := h.isBlankText_eq
  blankLine := h.blankLineFindings_eq
  hash := rfl
  signature := rfl

end Message.Respells

/-! ### What the rules say -/

namespace Rule

section

variable {c c' : Commit} (h : c'.LooksLike c)

include h

theorem checkEnvelope_congr (explain : String → String) (rule : Rule) :
    Check.checkEnvelope explain rule c' = Check.checkEnvelope explain rule c := by
  rw [Check.checkEnvelope, Check.checkEnvelope, h.signature]

/-- The rule on signers says the same of two commits if the verifier does. -/
theorem signedIdentity_congr (settings : Settings.Identity) {team : Collaborators}
    (hreplies : ∀ verify, team.verify = some verify → ∀ asked, verify asked c' = verify asked c)
    (s : Session) :
    Check.signedIdentity settings team c' s = Check.signedIdentity settings team c s := by
  rw [Check.signedIdentity, Check.signedIdentity, checkEnvelope_congr h,
    Check.identityOutcome.eq_def,
    Check.identityOutcome.eq_def]
  cases hverify : team.verify with
  | none => rfl
  | some verify =>
    have hask : s.askVerify verify c' = s.askVerify verify c := by
      rw [Session.askVerify, Session.askVerify, hreplies verify hverify, h.hash]
    simp only [hask]

/-- No rule tells commits apart that look the same. -/
theorem check_congr (settings : Settings) {team : Collaborators}
    (hreplies : ∀ verify, team.verify = some verify → ∀ asked, verify asked c' = verify asked c)
    (rule : Rule) (s : Session) :
    rule.check settings team c' s = rule.check settings team c s := by
  cases rule <;> simp only [check]
  case commitBody => rw [Check.body, Check.body, h.isEmpty, h.body, h.blankLine]
  case conventionalCommit => rw [Check.conventional, Check.conventional, h.isEmpty, h.subject]
  case imperativeVerb => rw [Check.mood, Check.mood, h.subject]
  case jiraReference => rw [Check.issue, Check.issue, h.isEmpty, h.subject, h.body]
  case signature =>
    rw [Check.signature, Check.signature, checkEnvelope_congr h, Check.signatureOutcome.eq_def,
      Check.signatureOutcome.eq_def, h.signature]
  case signedIdentity => exact signedIdentity_congr h settings.identity hreplies s
  case signOff => rw [Check.signOff, Check.signOff, h.body]
  case spell =>
    rw [Check.spelling, Check.spelling, Check.checkedWords, Check.checkedWords, h.subject, h.body]
  case subjectCase => rw [Check.subjectCase, Check.subjectCase, h.subject]
  case subjectLength => rw [Check.subjectLength, Check.subjectLength, h.subject]
  case subjectSuffix => rw [Check.subjectSuffix, Check.subjectSuffix, h.subject]

end

/-- Line ends and blanks at the end never matter: a commit keeps its subject and its body when its
message is respelled, and every rule says the same and asks the same, as long as the verifier
replies the same. -/
theorem check_respelled (c : Commit) {message : String}
    (h : Message.Respells c.message.toList message.toList) :
    let c' : Commit := { c with message := message }
    c'.subject = c.subject ∧ c'.body = c.body ∧
      ∀ (settings : Settings) (team : Collaborators),
        (∀ verify, team.verify = some verify → ∀ asked, verify asked c' = verify asked c) →
        ∀ (rule : Rule) (s : Session),
          rule.check settings team c' s = rule.check settings team c s := by
  intro c'
  have hlooks : c'.LooksLike c := h.looksLike
  exact ⟨hlooks.subject, hlooks.body, fun settings team hreplies rule s =>
    check_congr hlooks settings hreplies rule s⟩

/-- A signed commit, with the line ends of another system and with blanks after its last line, when
git cannot be run. -/
theorem check_respelled_signed :
    let c : Commit :=
      { message := "feat: a\n\nSee b.\n"
        hash := "1f"
        signature :=
          "ssh-ed25519: AAAAAAAAAAAAAAAAAAAAAAAAAAAAAAAAAAAAAAAAAAAAAAAAAAAAAAAAAAAAAAAAAAAA\n" }
    let team : Collaborators := { verify := some fun _ => Verification.verify false .notFound }
    let returned : Commit := { c with message := "feat: a\r\n\r\nSee b.\r\n" }
    let padded : Commit := { c with message := "feat: a\n\nSee b.\n\t\n\u3000" }
    (returned.body = c.body ∧
        check .signedIdentity {} team returned {} = check .signedIdentity {} team c {}) ∧
      padded.body = c.body ∧
        check .signedIdentity {} team padded {} = check .signedIdentity {} team c {} := by
  intro c team returned padded
  have hreturned : Message.Respells c.message.toList returned.message.toList := by
    have hreplaced : returned.message.toList =
        replaceChar '\n' ['\r', '\n'] c.message.toList := by decide
    exact hreplaced ▸ .carriageReturns (by decide)
  have hpadded : Message.Respells c.message.toList padded.message.toList := by
    have hended : padded.message.toList = c.message.toList ++ "\t\n\u3000".toList := by decide
    exact hended ▸ .blanks (by decide)
  have hreplies : ∀ message : String, ∀ verify, team.verify = some verify → ∀ asked,
      verify asked { c with message := message } = verify asked c := by
    rintro message verify hverify asked
    cases hverify
    rfl
  obtain ⟨-, hbody, hcheck⟩ := check_respelled c hreturned
  obtain ⟨-, hbody', hcheck'⟩ := check_respelled c hpadded
  exact ⟨⟨hbody, hcheck {} team (hreplies _) .signedIdentity {}⟩, hbody',
    hcheck' {} team (hreplies _) .signedIdentity {}⟩

end Rule

end CommitLint
