import CommitLint.Engine.Steps
import CommitLint.Proofs.Check.Divergence
import CommitLint.Proofs.Engine.Consultation
import Mathlib.Logic.ExistsUnique

/-!
# Questions over time

How often an engine asks in a run of steps, and what becomes of the replies. A run is followed
through the sessions before its steps (`Engine.sessionBefore`). The invariant is that such a session
is cancelled exactly when the run began so or a step before was to cancel (`cancelled_run`), and
that it holds, rule by rule, the questions of the steps before (`callsOf_sessionBefore_succ`).

The number of questions that a rule has asked grows only where a commit is validated (`asked_succ`),
so that each reply decides one outcome in one step (`existsUnique_decides`), and what one commit
leads to depends on cancellation before it alone (`consults_validate`).
-/

namespace CommitLint

namespace Rule

theorem questions_cancelled (rule : Rule) (settings : Settings) (team : Collaborators)
    (c : Commit) : rule.questions settings team c true = [] := by
  cases rule <;> simp [questions]

theorem length_questions_le_one (rule : Rule) (settings : Settings) (team : Collaborators)
    (c : Commit) (cancelled : Bool) : (rule.questions settings team c cancelled).length ≤ 1 := by
  cases rule <;> simp only [questions, List.length_nil, Nat.zero_le]
  case commitsAhead => split <;> simp
  case signedIdentity => split <;> simp

theorem outcome_commitsAhead {team : Collaborators} {ahead : Nat → String → AheadReply}
    (h : team.ahead = some ahead) (settings : Settings) (c : Commit) (cancelled : Bool)
    (asked : Nat) :
    outcome .commitsAhead settings team c cancelled asked =
      if cancelled then Check.countCancelled
      else
        Check.aheadReplyOutcome settings.repository
          (ahead asked settings.repository.referenceBranch) := by
  rw [outcome, h]

/-- Where a count is asked for, the reply decides. -/
theorem followsCount_of_asked {team : Collaborators} {ahead : Nat → String → AheadReply}
    (h : team.ahead = some ahead) {settings : Settings} {c : Commit} {cancelled : Bool}
    (hone : (questions .commitsAhead settings team c cancelled).length = 1) (asked : Nat) :
    Check.FollowsCount settings.repository (ahead asked settings.repository.referenceBranch)
      (outcome .commitsAhead settings team c cancelled asked) := by
  have hcancelled : ¬cancelled := by
    rintro rfl
    rw [questions_cancelled] at hone
    cases hone
  rw [outcome_commitsAhead h, if_neg hcancelled]
  exact Check.followsCount _ _

theorem outcome_signedIdentity_of_error {team : Collaborators} {c : Commit} {finding : Finding}
    (h : Check.checkEnvelope team.explain .signedIdentity c = .error finding) (settings : Settings)
    (cancelled : Bool) (asked : Nat) :
    outcome .signedIdentity settings team c cancelled asked = .failure finding := by
  rw [outcome, h]

theorem outcome_signedIdentity {team : Collaborators} {verify : Nat → Commit → VerifyReply}
    (h : team.verify = some verify) {c : Commit} (hc : acceptsEnvelope c) (settings : Settings)
    (cancelled : Bool) (asked : Nat) :
    outcome .signedIdentity settings team c cancelled asked =
      if cancelled then Check.verificationCancelled
      else Check.signerOutcome settings.identity (verify asked c) := by
  have hfault : (Check.verdict c).fault = none := Option.isNone_iff_eq_none.mp hc
  rw [outcome, h, Check.checkEnvelope_of_accepted hfault]

/-- Where a verification is asked for, the reply decides. -/
theorem followsVerification_of_asked {team : Collaborators}
    {verify : Nat → Commit → VerifyReply} (h : team.verify = some verify) {settings : Settings}
    {c : Commit} {cancelled : Bool}
    (hone : (questions .signedIdentity settings team c cancelled).length = 1) (asked : Nat) :
    Check.FollowsVerification settings.identity (verify asked c)
      (outcome .signedIdentity settings team c cancelled asked) := by
  have hcond : acceptsEnvelope c ∧ ¬cancelled := by
    rw [questions] at hone
    split at hone
    · rename_i hasked
      simp only [Bool.and_eq_true, Bool.not_eq_true'] at hasked
      exact ⟨hasked.1.2, Bool.not_eq_true _ ▸ hasked.2⟩
    · cases hone
  rw [outcome_signedIdentity h hcond.1, if_neg hcond.2]
  exact Check.followsVerification _ _

end Rule

namespace Engine

/-! ### Runs in pieces -/

theorem run_cons (e : Engine) (step : Step) (steps : List Step) (s : Session) :
    e.run (step :: steps) s =
      ((e.step step s).1 :: (e.run steps (e.step step s).2).1,
        (e.run steps (e.step step s).2).2) := rfl

theorem run_append (e : Engine) (first second : List Step) (s : Session) :
    e.run (first ++ second) s =
      ((e.run first s).1 ++ (e.run second (e.run first s).2).1,
        (e.run second (e.run first s).2).2) := by
  induction first generalizing s with
  | nil => rfl
  | cons step first ih => rw [List.cons_append, run_cons, ih, run_cons, List.cons_append]

/-- The session before a step of a run. -/
def sessionBefore (e : Engine) (steps : List Step) (s : Session) (i : Nat) : Session :=
  (e.run (steps.take i) s).2

theorem sessionBefore_length (e : Engine) (steps : List Step) (s : Session) :
    e.sessionBefore steps s steps.length = (e.run steps s).2 := by
  rw [sessionBefore, List.take_length]

theorem sessionBefore_succ (e : Engine) (steps : List Step) (s : Session) (i : Nat) :
    e.sessionBefore steps s (i + 1) =
      match steps[i]? with
      | none => e.sessionBefore steps s i
      | some step => (e.step step (e.sessionBefore steps s i)).2 := by
  rw [sessionBefore, List.take_add_one, run_append]
  cases steps[i]? <;> rfl

/-- Each step is taken in the session before it. -/
theorem getElem?_run (e : Engine) (steps : List Step) (s : Session) (i : Nat) :
    (e.run steps s).1[i]? =
      steps[i]?.map fun step => (e.step step (e.sessionBefore steps s i)).1 := by
  induction steps generalizing s i with
  | nil => rfl
  | cons step steps ih =>
    cases i with
    | zero => rfl
    | succ i => exact ih _ i

/-! ### Cancellation -/

theorem cancelled_step (e : Engine) (step : Step) (s : Session) :
    (e.step step s).2.cancelled = (s.cancelled || step == .cancel) := by
  rw [Engine.step]
  cases step with
  | message text => exact (e.cancelled_validate _ s).trans (Bool.or_false _).symm
  | commit c => exact (e.cancelled_validate _ s).trans (Bool.or_false _).symm
  | cancel => exact (Bool.or_true _).symm

/-- Work is cancelled by the first step that says so, and stays cancelled. -/
theorem cancelled_run (e : Engine) (steps : List Step) (s : Session) :
    (e.run steps s).2.cancelled = (s.cancelled || steps.contains .cancel) := by
  induction steps generalizing s with
  | nil => exact (Bool.or_false _).symm
  | cons step steps ih =>
    have htail := ih (e.step step s).2
    rw [cancelled_step, Bool.or_assoc, Bool.beq_comm] at htail
    rw [List.contains_cons]
    exact htail

/-- The session before a step is cancelled if the run began so, or a step before was to cancel. -/
theorem cancelled_sessionBefore (e : Engine) (steps : List Step) (s : Session) (i : Nat) :
    (e.sessionBefore steps s i).cancelled =
      (s.cancelled || (steps.take i).contains .cancel) :=
  e.cancelled_run (steps.take i) s

theorem calls_step_of_cancelled (e : Engine) (step : Step) {s : Session} (h : s.cancelled) :
    (e.step step s).2.calls = s.calls := by
  have hvalidate (c : Commit) : (e.validate c s).2.calls = s.calls := by
    have hnone : (e.rules.flatMap fun r => r.questions e.settings e.team c true) = [] :=
      List.flatMap_eq_nil_iff.mpr fun r _ => r.questions_cancelled e.settings e.team c
    rw [validate_eq, runRules_session, h, hnone, Session.ask_nil]
  cases step with
  | message text => exact hvalidate _
  | commit c => exact hvalidate c
  | cancel => rfl

/-- Nobody is asked after cancellation. -/
theorem calls_run_of_cancelled (e : Engine) (steps : List Step) {s : Session} (h : s.cancelled) :
    (e.run steps s).2.calls = s.calls := by
  induction steps generalizing s with
  | nil => rfl
  | cons step steps ih =>
    have hnext : (e.step step s).2.cancelled := by rw [cancelled_step, h, Bool.true_or]
    exact (ih hnext).trans (e.calls_step_of_cancelled step h)

theorem calls_run_of_cancelled_sessionBefore (e : Engine) (steps : List Step) (s : Session)
    (i : Nat) (h : (e.sessionBefore steps s i).cancelled) :
    (e.run steps s).2.calls = (e.sessionBefore steps s i).calls := by
  have hsplit := e.run_append (steps.take i) (steps.drop i) s
  rw [List.take_append_drop] at hsplit
  rw [hsplit]
  exact e.calls_run_of_cancelled (steps.drop i) h

/-! ### The questions of one rule -/

/-- The questions of a rule about a commit, over again for each time that the rule is listed. -/
def asks (e : Engine) (rule : Rule) (c : Commit) (cancelled : Bool) : List Call :=
  (List.replicate (e.rules.count rule) (rule.questions e.settings e.team c cancelled)).flatten

theorem callsOf_step (e : Engine) (step : Step) (s : Session) (rule : Rule) :
    (e.step step s).2.callsOf rule =
      s.callsOf rule ++ (step.commit?.elim [] fun c => e.asks rule c s.cancelled) := by
  cases step with
  | message text => exact e.callsOf_validate _ s rule
  | commit c => exact e.callsOf_validate c s rule
  | cancel => exact (List.append_nil _).symm

theorem callsOf_sessionBefore_succ (e : Engine) (steps : List Step) (s : Session) (i : Nat)
    (rule : Rule) :
    (e.sessionBefore steps s (i + 1)).callsOf rule =
      (e.sessionBefore steps s i).callsOf rule ++ ((steps[i]?.bind Step.commit?).elim [] fun c =>
        e.asks rule c (e.sessionBefore steps s i).cancelled) := by
  rw [sessionBefore_succ]
  cases steps[i]? with
  | none => exact (List.append_nil _).symm
  | some step => exact e.callsOf_step step _ rule

/-- The number of questions that a rule has asked before a step. -/
def asked (e : Engine) (steps : List Step) (s : Session) (rule : Rule) (i : Nat) : Nat :=
  ((e.sessionBefore steps s i).callsOf rule).length

theorem asked_succ (e : Engine) (steps : List Step) (s : Session) (rule : Rule) (i : Nat) :
    e.asked steps s rule (i + 1) =
      e.asked steps s rule i + ((steps[i]?.bind Step.commit?).elim 0 fun c =>
        e.rules.count rule * (rule.questions e.settings e.team c
          (e.sessionBefore steps s i).cancelled).length) := by
  rw [asked, asked, callsOf_sessionBefore_succ, List.length_append]
  cases steps[i]?.bind Step.commit? with
  | none => rfl
  | some c => simp [asks]

theorem asked_mono (e : Engine) (steps : List Step) (s : Session) (rule : Rule) {i j : Nat}
    (h : i ≤ j) : e.asked steps s rule i ≤ e.asked steps s rule j := by
  induction h with
  | refl => exact Nat.le_refl _
  | step _ ih =>
    rw [asked_succ]
    exact Nat.le_add_right_of_le ih

/-- Some step asks the question of a given number. -/
theorem exists_step_of_lt_asked (e : Engine) (steps : List Step) (s : Session) (rule : Rule)
    {k n : Nat} (hstart : e.asked steps s rule 0 ≤ k) (hn : k < e.asked steps s rule n) :
    ∃ i, e.asked steps s rule i ≤ k ∧ k < e.asked steps s rule (i + 1) := by
  induction n with
  | zero => omega
  | succ n ih =>
    by_cases hk : k < e.asked steps s rule n
    · exact ih hk
    · exact ⟨n, by omega, hn⟩

/-- Each question after the start of a run belongs to one step. -/
theorem existsUnique_step (e : Engine) (steps : List Step) (s : Session) (rule : Rule) {k : Nat}
    (hstart : (s.callsOf rule).length ≤ k) (hk : k < ((e.run steps s).2.callsOf rule).length) :
    ∃! i, e.asked steps s rule i ≤ k ∧ k < e.asked steps s rule (i + 1) := by
  rw [← sessionBefore_length] at hk
  obtain ⟨i, hle, hlt⟩ := e.exists_step_of_lt_asked steps s rule hstart hk
  refine ⟨i, ⟨hle, hlt⟩, ?_⟩
  rintro j ⟨hle', hlt'⟩
  -- Two steps cannot share a question, since the number of questions asked never falls.
  rcases Nat.lt_trichotomy j i with hji | hji | hji
  · have hmono : e.asked steps s rule (j + 1) ≤ e.asked steps s rule i :=
      e.asked_mono steps s rule hji
    omega
  · exact hji
  · have hmono : e.asked steps s rule (i + 1) ≤ e.asked steps s rule j :=
      e.asked_mono steps s rule hji
    omega

/-! ### Commits -/

/-- What the validation of a commit asks and says, between a session `s` and a session `t`. -/
structure Consults (e : Engine) (fired : Bool) (c : Commit) (s t : Session) (result : Result) :
    Prop where
  commit_eq : result.commit = c
  /-- A rule speaks once for each time that it is listed. -/
  length_outcomes : ∀ rule, (result.outcomesOf rule).length = e.rules.count rule
  /-- The repository is asked if there is one, before cancellation. -/
  ahead_calls : t.calls.filter Call.isAhead = s.calls.filter Call.isAhead ++
    List.replicate (if e.team.ahead.isSome && !fired then e.rules.count .commitsAhead else 0)
      (.ahead e.settings.repository.referenceBranch)
  /-- The verifier is asked if there is one and the envelope is accepted, before cancellation. -/
  verify_calls : t.calls.filter Call.isVerify = s.calls.filter Call.isVerify ++
    List.replicate
      (if e.team.verify.isSome && Rule.acceptsEnvelope c && !fired then
        e.rules.count .signedIdentity
      else 0)
      (.verify c.hash)
  /-- After cancellation a count is one cancelled error. -/
  ahead_cancelled : e.team.ahead.isSome → fired →
    ∀ o ∈ result.outcomesOf .commitsAhead, o.findings.map Finding.code = [.cancelled]
  /-- A rejected envelope is one error, cancelled or not. -/
  verify_rejected : Rule.acceptsEnvelope c = false → ∃ finding,
    Check.checkEnvelope e.team.explain .signedIdentity c = .error finding ∧
    Check.RejectsAs c finding.code ∧
    ∀ o ∈ result.outcomesOf .signedIdentity, o.findings = [finding]
  /-- After cancellation a verification is one cancelled error. -/
  verify_cancelled : e.team.verify.isSome → Rule.acceptsEnvelope c → fired →
    ∀ o ∈ result.outcomesOf .signedIdentity, o.findings.map Finding.code = [.cancelled]

theorem flatten_replicate_ite {α : Type} (n : Nat) (p : Bool) (a : α) :
    (List.replicate n (if p then [a] else [])).flatten = List.replicate (if p then n else 0) a := by
  cases p <;> simp

theorem exists_of_mem_outcomesOf_validate {e : Engine} {c : Commit} {s : Session} {rule : Rule}
    {o : Outcome} (h : o ∈ (e.validate c s).1.outcomesOf rule) :
    ∃ asked, o = rule.outcome e.settings e.team c s.cancelled asked := by
  rw [outcomesOf_validate] at h
  obtain ⟨n, -, rfl⟩ := List.mem_map.mp h
  exact ⟨_, rfl⟩

/-- Where a rule asks one question, the outcomes of a commit are numbered on. -/
theorem getElem?_outcomesOf_validate (e : Engine) (c : Commit) (s : Session) {rule : Rule}
    (hone : (rule.questions e.settings e.team c s.cancelled).length = 1) {n : Nat}
    (hn : n < e.rules.count rule) :
    ((e.validate c s).1.outcomesOf rule)[n]? =
      some (rule.outcome e.settings e.team c s.cancelled ((s.callsOf rule).length + n)) := by
  rw [outcomesOf_validate, List.getElem?_map, List.getElem?_range hn, hone, Option.map_some,
    Nat.mul_one]

theorem consults_validate (e : Engine) (c : Commit) (s : Session) :
    e.Consults s.cancelled c s (e.validate c s).2 (e.validate c s).1 where
  commit_eq := rfl
  length_outcomes rule := by rw [outcomesOf_validate, List.length_map, List.length_range]
  ahead_calls := by
    rw [← Session.callsOf_commitsAhead, ← Session.callsOf_commitsAhead, callsOf_validate,
      ← flatten_replicate_ite]
    rfl
  verify_calls := by
    rw [← Session.callsOf_signedIdentity, ← Session.callsOf_signedIdentity, callsOf_validate,
      ← flatten_replicate_ite]
    rfl
  ahead_cancelled hahead hfired o ho := by
    obtain ⟨asked, rfl⟩ := exists_of_mem_outcomesOf_validate ho
    obtain ⟨ahead, hahead⟩ := Option.isSome_iff_exists.mp hahead
    rw [Rule.outcome_commitsAhead hahead, if_pos hfired]
    rfl
  verify_rejected hc := by
    have hfault : (Envelope.judge c.signature.toList).fault ≠ none := fun hnone => by
      rw [Rule.acceptsEnvelope, hnone] at hc
      cases hc
    obtain ⟨code, hrejects⟩ := Check.exists_rejectsAs hfault
    obtain ⟨finding, hfinding, rfl⟩ := Check.checkEnvelope_of_rejectsAs hrejects
    refine ⟨finding, hfinding, hrejects, fun o ho => ?_⟩
    obtain ⟨asked, rfl⟩ := exists_of_mem_outcomesOf_validate ho
    rw [Rule.outcome_signedIdentity_of_error hfinding]
    rfl
  verify_cancelled hverify hc hfired o ho := by
    obtain ⟨asked, rfl⟩ := exists_of_mem_outcomesOf_validate ho
    obtain ⟨verify, hverify⟩ := Option.isSome_iff_exists.mp hverify
    rw [Rule.outcome_signedIdentity hverify hc, if_pos hfired]
    rfl

/-- The step that validates a commit. -/
theorem step_of_commit? (e : Engine) {step : Step} {c : Commit} (h : step.commit? = some c)
    (s : Session) : e.step step s = (some (e.validate c s).1, (e.validate c s).2) := by
  rw [Engine.step, h]

/-- Each commit of a run is validated in the session before its step. -/
theorem exists_consults (e : Engine) (steps : List Step) (s : Session) {i : Nat} {c : Commit}
    (h : steps[i]?.bind Step.commit? = some c) :
    ∃ result, (e.run steps s).1[i]? = some (some result) ∧
      e.Consults (s.cancelled || (steps.take i).contains .cancel) c (e.sessionBefore steps s i)
        (e.sessionBefore steps s (i + 1)) result := by
  obtain ⟨step, hstep, hc⟩ := Option.bind_eq_some_iff.mp h
  refine ⟨(e.validate c (e.sessionBefore steps s i)).1, ?_, ?_⟩
  · rw [getElem?_run, hstep, Option.map_some, e.step_of_commit? hc]
  · rw [sessionBefore_succ, hstep, ← cancelled_sessionBefore]
    dsimp only
    rw [e.step_of_commit? hc]
    exact e.consults_validate c _

/-- The reply to a question decides an outcome of the commit that is validated in the step of the
question. -/
theorem exists_outcome_of_asked (e : Engine) (steps : List Step) (s : Session) (rule : Rule)
    {i k : Nat} (hle : e.asked steps s rule i ≤ k) (hlt : k < e.asked steps s rule (i + 1)) :
    ∃ result cancelled, (e.run steps s).1[i]? = some (some result) ∧
      (rule.questions e.settings e.team result.commit cancelled).length = 1 ∧
      (result.outcomesOf rule)[k - e.asked steps s rule i]? =
        some (rule.outcome e.settings e.team result.commit cancelled k) := by
  rw [asked_succ] at hlt
  cases hcommit : steps[i]?.bind Step.commit? with
  | none =>
    rw [hcommit, Option.elim_none] at hlt
    omega
  | some c =>
    obtain ⟨step, hstep, hc⟩ := Option.bind_eq_some_iff.mp hcommit
    let before := e.sessionBefore steps s i
    have hle_one := rule.length_questions_le_one e.settings e.team c before.cancelled
    have hasks : k - e.asked steps s rule i <
        e.rules.count rule * (rule.questions e.settings e.team c before.cancelled).length := by
      rw [hcommit, Option.elim_some] at hlt
      exact Nat.sub_lt_left_of_lt_add hle hlt
    -- A rule that asks at all asks once for each time it is listed, so `k` is one of these times.
    have hone : (rule.questions e.settings e.team c before.cancelled).length = 1 := by
      refine Nat.le_antisymm hle_one (Nat.pos_of_ne_zero fun hzero => ?_)
      rw [hzero, Nat.mul_zero] at hasks
      omega
    rw [hone, Nat.mul_one] at hasks
    refine ⟨(e.validate c before).1, before.cancelled, ?_, hone, ?_⟩
    · rw [getElem?_run, hstep, Option.map_some, e.step_of_commit? hc]
    · have hout := e.getElem?_outcomesOf_validate c before hone hasks
      have hk : (before.callsOf rule).length + (k - e.asked steps s rule i) = k :=
        Nat.add_sub_cancel' hle
      rw [hk] at hout
      exact hout

/-- Step `i` of a run asks the question of number `k` of a rule, and an outcome of the commit that
is validated there, the one with the number of the question among those of the step, follows from
the reply as `follows` says. -/
def Decides (e : Engine) (steps : List Step) (s : Session) (rule : Rule) (k : Nat)
    (follows : Commit → Outcome → Prop) (i : Nat) : Prop :=
  ∃ result, (e.run steps s).1[i]? = some (some result) ∧
    e.asked steps s rule i ≤ k ∧ k < e.asked steps s rule (i + 1) ∧
    ∃ o, (result.outcomesOf rule)[k - e.asked steps s rule i]? = some o ∧ follows result.commit o

/-- Each reply decides one outcome, in one step. -/
theorem existsUnique_decides (e : Engine) (steps : List Step) (s : Session) {rule : Rule} {k : Nat}
    {follows : Commit → Outcome → Prop}
    (hfollows : ∀ c cancelled, (rule.questions e.settings e.team c cancelled).length = 1 →
      follows c (rule.outcome e.settings e.team c cancelled k))
    (hstart : (s.callsOf rule).length ≤ k) (hk : k < ((e.run steps s).2.callsOf rule).length) :
    ∃! i, e.Decides steps s rule k follows i := by
  obtain ⟨i, ⟨hle, hlt⟩, hunique⟩ := e.existsUnique_step steps s rule hstart hk
  obtain ⟨result, cancelled, hresult, hone, hout⟩ := e.exists_outcome_of_asked steps s rule hle hlt
  refine ⟨i, ⟨result, hresult, hle, hlt, _, hout, hfollows result.commit cancelled hone⟩, ?_⟩
  rintro j ⟨-, -, hle', hlt', -⟩
  exact hunique j ⟨hle', hlt'⟩

/-! ### Runs -/

/-- Where rules are distinct, a commit makes one question or none. -/
theorem Consults.countP_calls {e : Engine} {fired : Bool} {c : Commit} {s t : Session}
    {result : Result} (h : e.Consults fired c s t result) (hnodup : e.rules.Nodup) :
    t.calls.countP Call.isAhead = s.calls.countP Call.isAhead +
        (if .commitsAhead ∈ e.rules ∧ e.team.ahead.isSome ∧ fired = false then 1 else 0) ∧
      t.calls.countP Call.isVerify = s.calls.countP Call.isVerify +
        (if .signedIdentity ∈ e.rules ∧ e.team.verify.isSome ∧ Rule.acceptsEnvelope c ∧
          fired = false then 1 else 0) := by
  simp only [List.countP_eq_length_filter, h.ahead_calls, h.verify_calls, List.length_append,
    List.length_replicate, hnodup.count]
  grind

/-- In a run of steps a collaborator is asked once for each commit that needs it, replies are used
in order, and nobody is asked after cancellation. -/
theorem run_consults (e : Engine) (cancelled : Bool) (steps : List Step) :
    let start : Session := { cancelled := cancelled }
    let before := e.sessionBefore steps start
    let fired (i : Nat) : Bool := cancelled || (steps.take i).contains .cancel
    (∀ i c, steps[i]?.bind Step.commit? = some c → ∃ result,
      (e.run steps start).1[i]? = some (some result) ∧
      e.Consults (fired i) c (before i) (before (i + 1)) result) ∧
    (e.rules.Nodup → ∀ i c, steps[i]?.bind Step.commit? = some c →
      (before (i + 1)).calls.countP Call.isAhead = (before i).calls.countP Call.isAhead +
        (if .commitsAhead ∈ e.rules ∧ e.team.ahead.isSome ∧ fired i = false then 1 else 0) ∧
      (before (i + 1)).calls.countP Call.isVerify = (before i).calls.countP Call.isVerify +
        (if .signedIdentity ∈ e.rules ∧ e.team.verify.isSome ∧ Rule.acceptsEnvelope c ∧
          fired i = false then 1 else 0)) ∧
    (∀ ahead, e.team.ahead = some ahead →
      ∀ k < (e.run steps start).2.calls.countP Call.isAhead,
        ∃! i, e.Decides steps start .commitsAhead k (fun _ =>
          Check.FollowsCount e.settings.repository
            (ahead k e.settings.repository.referenceBranch)) i) ∧
    (∀ verify, e.team.verify = some verify →
      ∀ k < (e.run steps start).2.calls.countP Call.isVerify,
        ∃! i, e.Decides steps start .signedIdentity k (fun c =>
          Check.FollowsVerification e.settings.identity (verify k c)) i) ∧
    ∀ i, fired i → (e.run steps start).2.calls = (before i).calls := by
  intro start before fired
  refine ⟨fun i c hc => e.exists_consults steps start hc, fun hnodup i c hc => ?_,
    fun ahead hahead k hk => ?_, fun verify hverify k hk => ?_, fun i hfired => ?_⟩
  · obtain ⟨result, -, hconsults⟩ := e.exists_consults steps start hc
    exact hconsults.countP_calls hnodup
  · rw [List.countP_eq_length_filter, ← Session.callsOf_commitsAhead] at hk
    refine e.existsUnique_decides steps start (fun c cancelled hone => ?_) (Nat.zero_le k) hk
    exact Rule.followsCount_of_asked hahead hone k
  · rw [List.countP_eq_length_filter, ← Session.callsOf_signedIdentity] at hk
    refine e.existsUnique_decides steps start (fun c cancelled hone => ?_) (Nat.zero_le k) hk
    exact Rule.followsVerification_of_asked hverify hone k
  · refine e.calls_run_of_cancelled_sessionBefore steps start i ?_
    rw [cancelled_sessionBefore]
    exact hfired

/-- A message, cancellation, and another message: one question, and its reply decides. -/
theorem run_consults_scripted :
    let e : Engine :=
      { settings := {}
        rules := [.signedIdentity, .commitsAhead]
        team :=
          { ahead := some (scripted (.ok 3) [])
            verify := some (scripted (.error .badSignature) []) } }
    let steps : List Step := [.message "fix: one", .cancel, .message "fix: two"]
    let before := e.sessionBefore steps {}
    e.rules.Nodup ∧
      (before 1).calls.countP Call.isAhead = (before 0).calls.countP Call.isAhead + 1 ∧
      (before 1).calls.countP Call.isVerify = (before 0).calls.countP Call.isVerify ∧
      (∃! i, e.Decides steps {} .commitsAhead 0 (fun _ => Check.FollowsCount {} (.ok 3)) i) ∧
      (e.run steps {}).2.calls = (before 2).calls := by
  intro e steps before
  have hnodup : e.rules.Nodup := by decide
  obtain ⟨-, hcount, hahead, -, hcancelled⟩ := e.run_consults false steps
  have hdecides := hahead _ rfl 0 (by decide +kernel)
  have hfirst := hcount hnodup 0 { message := "fix: one" } rfl
  exact ⟨hnodup, hfirst.1, hfirst.2, hdecides, hcancelled 2 rfl⟩

end Engine

end CommitLint
