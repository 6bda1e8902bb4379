import CommitLint.Proofs.Engine.Independence
import CommitLint.Proofs.Summary

/-!
# Runs that come apart

A collaborator may answer by the number of earlier questions. Here the numbers matter in one way
only: there may come a time from which on nobody answers any more, and before that a question has
one answer, whenever it is asked (`Collaborators.FollowsUntil`). Then nothing is left of a session
that a rule could tell, except that it may be late. So a run over some commits comes to what each
rule says about each commit on its own, unless it is late and the rule is one of the two that ask;
then all that it finds may be that work was cancelled (`Engine.judgesUntil_validateAll`). Where it
never gets late, the commits have no more to do with each other than that
(`Engine.JudgesUntil.eq_alone`).

How results are reported is part of the settings, and no rule looks at it
(`Engine.validateAll_withOutput`).
-/

namespace CommitLint

/-- Some collaborators answer as others do, and these always answer a question in the same way. But
if it is late, the answer may be that work was cancelled. -/
structure Collaborators.FollowsUntil (late : Prop) (team other : Collaborators) : Prop where
  ahead : Option.Rel (fun ask ask' => ∀ asked asked' reference,
    ask asked reference = ask' asked' reference ∨ late ∧ ask asked reference = .error .cancelled)
    team.ahead other.ahead
  verify : Option.Rel (fun ask ask' => ∀ asked asked' c,
    ask asked c = ask' asked' c ∨ late ∧ ask asked c = .error .cancelled) team.verify other.verify
  explain : team.explain = other.explain

namespace Rule

/-- A rule that says something about a commit alone also says it in a run, unless it is late and the
rule is one that asks: then all that it finds may be that work was cancelled. -/
def SaysUntil (rule : Rule) (late : Prop) (alone o : Outcome) : Prop :=
  o = alone ∨ late ∧ (rule = .commitsAhead ∨ rule = .signedIdentity) ∧
    o.findings.map Finding.code = [.cancelled]

/-- The questions that a rule has asked make no difference to what it says. -/
theorem saysUntil_outcome {late : Prop} {team other : Collaborators}
    (h : team.FollowsUntil late other) (rule : Rule) (settings : Settings) (c : Commit)
    (asked asked' : Nat) :
    rule.SaysUntil late (rule.outcome settings other c false asked')
      (rule.outcome settings team c false asked) := by
  obtain ⟨ahead, verify, explain⟩ := team
  obtain ⟨ahead', verify', explain'⟩ := other
  obtain ⟨hahead, hverify, hexplain⟩ := h
  obtain rfl : explain = explain' := hexplain
  -- Two rules ask, and only they look at the number of earlier questions.
  cases rule
  case commitsAhead =>
    cases hahead with
    | none => exact .inl rfl
    | some hask =>
      rcases hask asked asked' settings.repository.referenceBranch with heq | ⟨hlate, hcancelled⟩
      · exact .inl (congrArg (Check.aheadReplyOutcome _) heq)
      · refine .inr ⟨hlate, .inl rfl, ?_⟩
        simp only [outcome, hcancelled, Bool.false_eq_true, if_false]
        rfl
  case signedIdentity =>
    simp only [outcome]
    cases Check.checkEnvelope explain .signedIdentity c with
    | error finding => exact .inl rfl
    | ok kind =>
      cases hverify with
      | none => exact .inl rfl
      | some hask =>
        rcases hask asked asked' c with heq | ⟨hlate, hcancelled⟩
        · exact .inl (congrArg (Check.signerOutcome _) heq)
        · refine .inr ⟨hlate, .inr rfl, ?_⟩
          simp only [hcancelled, Bool.false_eq_true, if_false]
          rfl
  all_goals exact .inl rfl

end Rule

namespace Engine

/-- The result of a commit if every rule is asked about this commit alone. -/
def alone (e : Engine) (c : Commit) : Result :=
  .ofOutcomes c (e.rules.map fun rule => (rule.check e.settings e.team c {}).1)

/-- Nothing is found about a commit alone exactly if no rule finds anything. -/
theorem findings_alone_eq_nil_iff {e : Engine} {c : Commit} :
    (e.alone c).findings = [] ↔
      ∀ rule ∈ e.rules, (rule.check e.settings e.team c {}).1.findings = [] := by
  have hperm : (e.alone c).outcomes.Perm
      (e.rules.map fun rule => (rule.check e.settings e.team c {}).1) :=
    List.mergeSort_perm _ _
  rw [Result.findings, List.flatMap_eq_nil_iff]
  simp only [hperm.mem_iff, List.forall_mem_map]

/-- A result holds what each rule says about a commit alone, as far as it was not late. -/
def JudgesUntil (e : Engine) (late : Prop) (c : Commit) (r : Result) : Prop :=
  ∃ outcomes, r = .ofOutcomes c outcomes ∧ List.Forall₂ (fun rule o =>
    rule.SaysUntil late (rule.check e.settings e.team c {}).1 o) e.rules outcomes

/-- Before it is late, a commit has the result that it has alone. -/
theorem JudgesUntil.eq_alone {e : Engine} {late : Prop} {c : Commit} {r : Result}
    (h : e.JudgesUntil late c r) (hlate : ¬late) : r = e.alone c := by
  obtain ⟨outcomes, rfl, hsaid⟩ := h
  have houtcomes : e.rules.map (fun rule => (rule.check e.settings e.team c {}).1) = outcomes :=
    List.forall₂_eq_eq_eq ▸ List.forall₂_map_left_iff.mpr
      (hsaid.imp fun _ _ hsaid => (hsaid.resolve_right fun h => hlate h.1).symm)
  rw [alone, houtcomes]

theorem eq_map_alone {e : Engine} {late : Prop} {commits : List Commit} {results : List Result}
    (h : List.Forall₂ (e.JudgesUntil late) commits results) (hlate : ¬late) :
    results = commits.map e.alone := by
  induction h with
  | nil => rfl
  | cons hresult _ ih => rw [List.map_cons, hresult.eq_alone hlate, ih]

section

variable (e : Engine) {late : Prop} {team : Collaborators} {s : Session}

theorem saysUntil_runRules (h : team.FollowsUntil late e.team) (hs : s.cancelled = false)
    (c : Commit) (rules : List Rule) :
    List.Forall₂ (fun rule o => rule.SaysUntil late (rule.check e.settings e.team c {}).1 o) rules
      ({ e with team := team }.runRules c rules s).1 := by
  induction rules generalizing s with
  | nil => exact .nil
  | cons rule rules ih =>
    have hsaid : rule.SaysUntil late (rule.check e.settings e.team c {}).1
        (rule.outcome e.settings team c s.cancelled (s.callsOf rule).length) := by
      rw [Rule.check_eq, hs]
      exact Rule.saysUntil_outcome h rule e.settings c _ _
    rw [runRules_cons]
    exact .cons hsaid (ih hs)

theorem judgesUntil_validate (h : team.FollowsUntil late e.team) (hs : s.cancelled = false)
    (c : Commit) : e.JudgesUntil late c ({ e with team := team }.validate c s).1 :=
  ⟨_, rfl, e.saysUntil_runRules h hs c e.rules⟩

/-- Nothing that happens to one commit makes a difference to another, except that it may be late. -/
theorem judgesUntil_validateAll (h : team.FollowsUntil late e.team) (hs : s.cancelled = false)
    (commits : List Commit) :
    List.Forall₂ (e.JudgesUntil late) commits
      ({ e with team := team }.validateAll commits s).1 := by
  induction commits generalizing s with
  | nil => exact .nil
  | cons c commits ih =>
    exact .cons (e.judgesUntil_validate h hs c) (ih ((cancelled_validate _ c s).trans hs))

end

/-! ### How results are reported -/

/-- An engine with other settings for the report. -/
def withOutput (e : Engine) (output : Settings.Output) : Engine :=
  { e with settings := { e.settings with output := output } }

theorem runRules_withOutput (e : Engine) (output : Settings.Output) (c : Commit)
    (rules : List Rule) (s : Session) :
    (e.withOutput output).runRules c rules s = e.runRules c rules s := by
  induction rules generalizing s with
  | nil => rfl
  | cons rule rules ih =>
    -- Each rule reads a section of its own, and there is none for the report.
    have hcheck : rule.check (e.withOutput output).settings (e.withOutput output).team c s =
        rule.check e.settings e.team c s := by
      cases rule <;> rfl
    rw [runRules, runRules, hcheck]
    dsimp only
    rw [ih]

theorem validateAll_withOutput (e : Engine) (output : Settings.Output) (commits : List Commit)
    (s : Session) : (e.withOutput output).validateAll commits s = e.validateAll commits s := by
  induction commits generalizing s with
  | nil => rfl
  | cons c commits ih =>
    have hvalidate : (e.withOutput output).validate c s = e.validate c s := by
      rw [validate_eq, validate_eq]
      exact congrArg (fun p : List Outcome × Session => (Result.ofOutcomes c p.1, p.2))
        (e.runRules_withOutput output c e.rules s)
    rw [validateAll, validateAll, hvalidate]
    dsimp only
    rw [ih]

end Engine

end CommitLint
