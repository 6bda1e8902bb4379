import CommitLint.Engine
import CommitLint.Proofs.Check.Signature
import CommitLint.Proofs.Rule

/-!
# What rules ask, and what they say

A check looks at a session in two ways only: whether work was cancelled, and how many questions the
same rule asked earlier. `Rule.outcome` says what a rule concludes from these two, `Rule.questions`
which questions it asks, and `check_eq` that a check is no more than this. The session of the other
rules never matters, because each question belongs to one rule (`asker_of_mem_questions`).

From there on sessions are followed through the rules of an engine:

* a pass over a commit adds the questions of every rule (`runRules_session`), so a rule has asked
  its own questions once for each time that it is listed (`callsOf_runRules`);
* the outcomes of one rule depend on its own earlier questions (`filter_runRules`), and sorting by
  name keeps their order (`outcomesOf_validate`).
-/

namespace CommitLint

/-! ### Questions by rule -/

/-- The rule that asks a question. -/
def Call.asker : Call → Rule
  | .ahead _ => .commitsAhead
  | .verify _ => .signedIdentity

/-- The questions of a rule, in order. -/
def Session.callsOf (s : Session) (rule : Rule) : List Call := s.calls.filter (·.asker == rule)

theorem Session.callsOf_commitsAhead (s : Session) :
    s.callsOf .commitsAhead = s.calls.filter Call.isAhead :=
  List.filter_congr fun q _ => by cases q <;> rfl

theorem Session.callsOf_signedIdentity (s : Session) :
    s.callsOf .signedIdentity = s.calls.filter Call.isVerify :=
  List.filter_congr fun q _ => by cases q <;> rfl

/-- A session after some further questions. -/
def Session.ask (s : Session) (questions : List Call) : Session :=
  { s with calls := s.calls ++ questions }

@[simp]
theorem Session.cancelled_ask (s : Session) (questions : List Call) :
    (s.ask questions).cancelled = s.cancelled := rfl

@[simp]
theorem Session.ask_nil (s : Session) : s.ask [] = s := by simp [Session.ask]

theorem Session.ask_ask (s : Session) (first second : List Call) :
    (s.ask first).ask second = s.ask (first ++ second) := by simp [Session.ask]

theorem Session.callsOf_ask (s : Session) (questions : List Call) (rule : Rule) :
    (s.ask questions).callsOf rule = s.callsOf rule ++ questions.filter (·.asker == rule) :=
  List.filter_append s.calls questions

namespace Rule

/-- Whether the envelope of the signature of a commit is accepted. -/
def acceptsEnvelope (c : Commit) : Bool := (Envelope.judge c.signature.toList).fault.isNone

/-- The questions that a rule asks about a commit. -/
def questions (rule : Rule) (settings : Settings) (team : Collaborators) (c : Commit)
    (cancelled : Bool) : List Call :=
  match rule with
  | .commitsAhead =>
    if team.ahead.isSome && !cancelled then [.ahead settings.repository.referenceBranch] else []
  | .signedIdentity =>
    if team.verify.isSome && acceptsEnvelope c && !cancelled then [.verify c.hash] else []
  | _ => []

/-- What a rule says about a commit after it has asked some questions about others. -/
def outcome (rule : Rule) (settings : Settings) (team : Collaborators) (c : Commit)
    (cancelled : Bool) (asked : Nat) : Outcome :=
  match rule with
  | .commitsAhead =>
    match team.ahead with
    | none => { rule := .commitsAhead, details := .ofList [("status", "skipped")] }
    | some ahead =>
      if cancelled then Check.countCancelled
      else
        Check.aheadReplyOutcome settings.repository
          (ahead asked settings.repository.referenceBranch)
  | .signedIdentity =>
    match Check.checkEnvelope team.explain .signedIdentity c, team.verify with
    | .error finding, _ => .failure finding
    | .ok _, none => { rule := .signedIdentity, details := .ofList [("status", "skipped")] }
    | .ok _, some verify =>
      if cancelled then Check.verificationCancelled
      else Check.signerOutcome settings.identity (verify asked c)
  | rule => (rule.check settings team c {}).1

theorem asker_of_mem_questions {rule : Rule} {settings : Settings} {team : Collaborators}
    {c : Commit} {cancelled : Bool} {q : Call}
    (h : q ∈ rule.questions settings team c cancelled) : q.asker = rule := by
  cases rule <;> simp only [questions, List.not_mem_nil] at h
  case commitsAhead =>
    split at h
    · rw [List.mem_singleton.mp h, Call.asker]
    · cases h
  case signedIdentity =>
    split at h
    · rw [List.mem_singleton.mp h, Call.asker]
    · cases h

/-- A rule asks no questions of other rules. -/
theorem filter_questions (r rule : Rule) (settings : Settings) (team : Collaborators)
    (c : Commit) (cancelled : Bool) :
    (r.questions settings team c cancelled).filter (·.asker == rule) =
      if r = rule then r.questions settings team c cancelled else [] := by
  split
  · rename_i h
    exact List.filter_eq_self.mpr fun q hq => by rw [asker_of_mem_questions hq, beq_iff_eq, h]
  · rename_i h
    exact List.filter_eq_nil_iff.mpr fun q hq => by
      rw [asker_of_mem_questions hq, beq_iff_eq]
      exact h

theorem check_commitsAhead (settings : Settings) (team : Collaborators) (c : Commit)
    (s : Session) :
    check .commitsAhead settings team c s =
      (outcome .commitsAhead settings team c s.cancelled (s.callsOf .commitsAhead).length,
        s.ask (questions .commitsAhead settings team c s.cancelled)) := by
  rw [check, Check.commitsAhead, outcome, questions]
  cases team.ahead with
  | none => simp
  | some ahead =>
    cases hs : s.cancelled with
    | true => simp
    | false =>
      rw [Session.callsOf_commitsAhead, ← List.countP_eq_length_filter]
      simp [hs, Session.askAhead, Session.ask]

theorem check_signedIdentity (settings : Settings) (team : Collaborators) (c : Commit)
    (s : Session) :
    check .signedIdentity settings team c s =
      (outcome .signedIdentity settings team c s.cancelled (s.callsOf .signedIdentity).length,
        s.ask (questions .signedIdentity settings team c s.cancelled)) := by
  rw [check, Check.signedIdentity, outcome, questions]
  by_cases hfault : (Check.verdict c).fault = none
  · have haccepts : acceptsEnvelope c = true := Option.isNone_iff_eq_none.mpr hfault
    rw [Check.checkEnvelope_of_accepted hfault, haccepts, Check.identityOutcome]
    cases team.verify with
    | none => simp
    | some verify =>
      cases hs : s.cancelled with
      | true => simp
      | false =>
        rw [Session.callsOf_signedIdentity, ← List.countP_eq_length_filter]
        simp [hs, Session.askVerify, Session.ask]
  · have hrejects : acceptsEnvelope c = false :=
      Bool.eq_false_iff.mpr fun h => hfault (Option.isNone_iff_eq_none.mp h)
    obtain ⟨finding, hfinding⟩ := Check.checkEnvelope_of_not_accepted team.explain hfault
    rw [hfinding, hrejects, Check.identityOutcome]
    simp

/-- A check sees no more of a session than whether work was cancelled and how often its rule has
asked, and it leaves behind its questions. -/
theorem check_eq (rule : Rule) (settings : Settings) (team : Collaborators) (c : Commit)
    (s : Session) :
    rule.check settings team c s =
      (rule.outcome settings team c s.cancelled (s.callsOf rule).length,
        s.ask (rule.questions settings team c s.cancelled)) := by
  cases rule
  case commitsAhead => exact check_commitsAhead settings team c s
  case signedIdentity => exact check_signedIdentity settings team c s
  all_goals simp only [check, outcome, questions, Session.ask_nil]

/-! ### Outcomes are labelled -/

theorem rule_commitsAhead (settings : Settings) (team : Collaborators) (c : Commit)
    (cancelled : Bool) (asked : Nat) :
    (outcome .commitsAhead settings team c cancelled asked).rule = .commitsAhead := by
  rw [outcome]
  cases team.ahead with
  | none => rfl
  | some ahead =>
    dsimp only
    split
    · rfl
    · rw [Check.aheadReplyOutcome.eq_def]
      split <;> rfl

theorem rule_checkEnvelope {explain : String → String} {rule : Rule} {c : Commit}
    {finding : Finding} (h : Check.checkEnvelope explain rule c = .error finding) :
    finding.rule = rule := by
  by_cases hfault : (Check.verdict c).fault = none
  · rw [Check.checkEnvelope_of_accepted hfault] at h
    cases h
  · obtain ⟨other, hother⟩ := Check.checkEnvelope_of_not_accepted explain hfault
    rw [hother] at h
    cases h
    rfl

theorem rule_signedIdentity (settings : Settings) (team : Collaborators) (c : Commit)
    (cancelled : Bool) (asked : Nat) :
    (outcome .signedIdentity settings team c cancelled asked).rule = .signedIdentity := by
  rw [outcome]
  cases h : Check.checkEnvelope team.explain .signedIdentity c with
  | error finding => exact rule_checkEnvelope h
  | ok kind =>
    cases team.verify with
    | none => rfl
    | some verify =>
      dsimp only
      split
      · rfl
      · rw [Check.signerOutcome.eq_def]
        split <;> rfl

/-- The outcome of a rule names the rule. -/
theorem rule_outcome (rule : Rule) (settings : Settings) (team : Collaborators) (c : Commit)
    (cancelled : Bool) (asked : Nat) :
    (rule.outcome settings team c cancelled asked).rule = rule := by
  cases rule
  case commitsAhead => exact rule_commitsAhead settings team c cancelled asked
  case signedIdentity => exact rule_signedIdentity settings team c cancelled asked
  case commitBody =>
    simp only [outcome, check, Check.body]
    split <;> rfl
  case conventionalCommit =>
    simp only [outcome, check, Check.conventional, Check.subjectOutcome]
    split
    · rfl
    · split <;> rfl
  case imperativeVerb =>
    simp only [outcome, check, Check.mood]
    split
    · rfl
    · split <;> rfl
  case jiraReference =>
    simp only [outcome, check, Check.issue]
    split <;> rfl
  case signature =>
    simp only [outcome, check, Check.signature]
    rw [Check.signatureOutcome.eq_def]
    split <;> rfl
  case signOff => rfl
  case spell => rfl
  case subjectCase =>
    simp only [outcome, check, Check.subjectCase]
    split
    · rfl
    · split <;> rfl
  case subjectLength => rfl
  case subjectSuffix =>
    simp only [outcome, check, Check.subjectSuffix]
    split
    · rfl
    · split
      · rfl
      · split <;> rfl

end Rule

namespace Engine

/-! ### One pass over the rules -/

theorem runRules_cons (e : Engine) (c : Commit) (rule : Rule) (rules : List Rule) (s : Session) :
    e.runRules c (rule :: rules) s =
      let next := s.ask (rule.questions e.settings e.team c s.cancelled)
      (rule.outcome e.settings e.team c s.cancelled (s.callsOf rule).length ::
        (e.runRules c rules next).1, (e.runRules c rules next).2) := by
  rw [runRules, Rule.check_eq]

/-- A pass over a commit leaves behind the questions of all rules. -/
theorem runRules_session (e : Engine) (c : Commit) (rules : List Rule) (s : Session) :
    (e.runRules c rules s).2 =
      s.ask (rules.flatMap fun r => r.questions e.settings e.team c s.cancelled) := by
  induction rules generalizing s with
  | nil => rw [runRules, List.flatMap_nil, Session.ask_nil]
  | cons rule rules ih =>
    rw [runRules_cons, List.flatMap_cons, ← Session.ask_ask]
    exact ih _

/-- The questions of one rule among those of some rules. -/
theorem filter_flatMap_questions (settings : Settings) (team : Collaborators) (c : Commit)
    (cancelled : Bool) (rule : Rule) (rules : List Rule) :
    (rules.flatMap fun r => r.questions settings team c cancelled).filter (·.asker == rule) =
      (List.replicate (rules.count rule) (rule.questions settings team c cancelled)).flatten := by
  induction rules with
  | nil => rfl
  | cons r rules ih =>
    rw [List.flatMap_cons, List.filter_append, ih, Rule.filter_questions, List.count_cons]
    by_cases h : r = rule
    · rw [if_pos h, if_pos (beq_iff_eq.mpr h), List.replicate_succ, List.flatten_cons, h]
    · rw [if_neg h, if_neg (by simpa using h), List.nil_append, Nat.add_zero]

/-- A rule asks its questions once for each time that it is listed. -/
theorem callsOf_runRules (e : Engine) (c : Commit) (rules : List Rule) (s : Session)
    (rule : Rule) :
    ((e.runRules c rules s).2).callsOf rule =
      s.callsOf rule ++ (List.replicate (rules.count rule)
        (rule.questions e.settings e.team c s.cancelled)).flatten := by
  rw [runRules_session, Session.callsOf_ask, filter_flatMap_questions]

/-- The outcomes of one rule, in order: each time the rule is listed, it has asked a little
more. -/
theorem filter_runRules (e : Engine) (c : Commit) (rules : List Rule) (s : Session)
    (rule : Rule) :
    ((e.runRules c rules s).1).filter (·.rule == rule) =
      (List.range (rules.count rule)).map fun n =>
        rule.outcome e.settings e.team c s.cancelled ((s.callsOf rule).length +
          n * (rule.questions e.settings e.team c s.cancelled).length) := by
  induction rules generalizing s with
  | nil => rfl
  | cons r rules ih =>
    rw [runRules_cons]
    dsimp only
    rw [List.filter_cons, ih, Rule.rule_outcome, Session.callsOf_ask, Rule.filter_questions,
      List.count_cons]
    by_cases h : r = rule
    -- The rule itself speaks first, and the later outcomes are numbered on from its questions.
    · subst h
      rw [if_pos (beq_self_eq_true r), if_pos (beq_self_eq_true r), if_pos rfl,
        List.range_succ_eq_map, List.map_cons, List.map_map]
      refine List.cons_eq_cons.mpr ⟨by simp, List.map_congr_left fun n _ => ?_⟩
      simp only [Session.cancelled_ask, List.length_append, Function.comp_apply, Nat.succ_mul]
      congr 1
      omega
    · rw [if_neg (by simpa using h), if_neg h, if_neg (by simpa using h), List.append_nil]
      rfl

/-- Where no rule is listed twice, each speaks from the session before the pass. -/
theorem runRules_of_nodup (e : Engine) (c : Commit) (rules : List Rule) (s : Session)
    (h : rules.Nodup) :
    (e.runRules c rules s).1 = rules.map fun r =>
      r.outcome e.settings e.team c s.cancelled (s.callsOf r).length := by
  induction rules generalizing s with
  | nil => rfl
  | cons rule rules ih =>
    obtain ⟨hrule, hrules⟩ := List.nodup_cons.mp h
    rw [runRules_cons, List.map_cons]
    refine List.cons_eq_cons.mpr ⟨rfl, (ih _ hrules).trans (List.map_congr_left fun r hr => ?_)⟩
    have hne : rule ≠ r := fun heq => hrule (heq ▸ hr)
    rw [Session.cancelled_ask, Session.callsOf_ask, Rule.filter_questions, if_neg hne,
      List.append_nil]

end Engine

/-! ### Results -/

/-- The outcomes of a rule. -/
def Result.outcomesOf (r : Result) (rule : Rule) : List Outcome :=
  r.outcomes.filter (·.rule == rule)

theorem Outcome.rule_le_trans (o p q : Outcome) (hop : o.rule.le p.rule)
    (hpq : p.rule.le q.rule) : o.rule.le q.rule :=
  Rule.le_trans o.rule p.rule q.rule hop hpq

theorem Outcome.rule_le_total (o p : Outcome) : o.rule.le p.rule || p.rule.le o.rule :=
  Rule.le_total o.rule p.rule

/-- Sorting by name keeps the outcomes of a rule in order. -/
theorem Result.outcomesOf_ofOutcomes (c : Commit) (outcomes : List Outcome) (rule : Rule) :
    (ofOutcomes c outcomes).outcomesOf rule = outcomes.filter (·.rule == rule) := by
  -- The outcomes of one rule are sorted as they stand, so a stable sort keeps them as a sublist.
  have hsorted : (outcomes.filter (·.rule == rule)).Pairwise fun o p => o.rule.le p.rule := by
    refine List.pairwise_filter.mpr (List.pairwise_of_forall fun o p ho hp => ?_)
    rw [beq_iff_eq.mp ho, beq_iff_eq.mp hp]
    exact decide_eq_true (Nat.le_refl _)
  have hsub : (outcomes.filter (·.rule == rule)).Sublist
      (outcomes.mergeSort fun o p => o.rule.le p.rule) :=
    List.sublist_mergeSort Outcome.rule_le_trans Outcome.rule_le_total hsorted List.filter_sublist
  have hfilter := hsub.filter (·.rule == rule)
  rw [List.filter_filter] at hfilter
  simp only [Bool.and_self] at hfilter
  refine (hfilter.eq_of_length ?_).symm
  exact ((List.mergeSort_perm outcomes fun o p => o.rule.le p.rule).filter _).length_eq.symm

namespace Engine

theorem validate_eq (e : Engine) (c : Commit) (s : Session) :
    e.validate c s =
      (Result.ofOutcomes c (e.runRules c e.rules s).1, (e.runRules c e.rules s).2) := rfl

/-- The outcomes of one rule in the result of a commit. -/
theorem outcomesOf_validate (e : Engine) (c : Commit) (s : Session) (rule : Rule) :
    (e.validate c s).1.outcomesOf rule =
      (List.range (e.rules.count rule)).map fun n =>
        rule.outcome e.settings e.team c s.cancelled ((s.callsOf rule).length +
          n * (rule.questions e.settings e.team c s.cancelled).length) := by
  rw [validate_eq, Result.outcomesOf_ofOutcomes, filter_runRules]

/-- The questions of one rule after a commit. -/
theorem callsOf_validate (e : Engine) (c : Commit) (s : Session) (rule : Rule) :
    (e.validate c s).2.callsOf rule =
      s.callsOf rule ++ (List.replicate (e.rules.count rule)
        (rule.questions e.settings e.team c s.cancelled)).flatten :=
  callsOf_runRules e c e.rules s rule

theorem cancelled_validate (e : Engine) (c : Commit) (s : Session) :
    (e.validate c s).2.cancelled = s.cancelled := by
  rw [validate_eq, runRules_session, Session.cancelled_ask]

end Engine

end CommitLint
