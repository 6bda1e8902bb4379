import CommitLint.Proofs.Engine.Consultation
import CommitLint.Summary

/-!
# Rules do not disturb each other

Two engines that differ in their rules only are run over the same commits. As long as both list a
rule equally often, the rule has asked the same questions in both runs (`Session.Agree`), and so it
says the same: each question is numbered within its own rule, and nothing that one rule leaves
behind is read by another. Two consequences:

* the order of the rules does not matter, since a result is sorted by name and names are distinct;
* leaving out some rules does not change what the others say.
-/

namespace CommitLint

namespace Engine

/-- An engine with the same settings and collaborators, and other rules. -/
def withRules (e : Engine) (rules : List Rule) : Engine := { e with rules := rules }

theorem activeRules_perm (e : Engine) : e.activeRules.Perm e.rules :=
  List.mergeSort_perm e.rules Rule.le

theorem pairwise_activeRules (e : Engine) : e.activeRules.Pairwise fun r s => r.le s :=
  List.pairwise_mergeSort Rule.le_trans Rule.le_total e.rules

/-- The order in which rules are listed is lost when they are sorted. -/
theorem activeRules_eq_of_perm {e e' : Engine} (h : e'.rules.Perm e.rules) :
    e'.activeRules = e.activeRules := by
  refine List.Perm.eq_of_pairwise (fun r s _ _ => Rule.le_antisymm) e'.pairwise_activeRules
    e.pairwise_activeRules ?_
  exact (e'.activeRules_perm.trans h).trans e.activeRules_perm.symm

/-- Distinct rules stand in the strict order of their names. -/
theorem pairwise_name_activeRules (e : Engine) (h : e.rules.Nodup) :
    e.activeRules.Pairwise fun r s => r.name < s.name := by
  have hnodup : e.activeRules.Nodup := e.activeRules_perm.nodup_iff.mpr h
  refine (e.pairwise_activeRules.and hnodup).imp fun {r s} hrs => ?_
  obtain ⟨hle, hne⟩ := hrs
  rw [← Rule.rank_lt_iff]
  have hrank : r.rank ≠ s.rank := fun heq => hne (Rule.rank_inj.mp heq)
  rw [Rule.le, decide_eq_true_eq] at hle
  omega

/-- Where no rule is listed twice, a result has one outcome for each rule. -/
theorem validate_of_nodup (e : Engine) (h : e.rules.Nodup) (c : Commit) (s : Session) :
    (e.validate c s).1 = ⟨c, e.activeRules.map fun r =>
      r.outcome e.settings e.team c s.cancelled (s.callsOf r).length⟩ := by
  rw [validate_eq, Result.ofOutcomes, runRules_of_nodup e c e.rules s h, activeRules]
  refine congrArg (Result.mk c) (List.map_mergeSort fun r _ r' _ => ?_).symm
  rw [Rule.rule_outcome, Rule.rule_outcome]

end Engine

/-! ### Sessions that agree about some rules -/

/-- Two sessions agree about some rules: in both, work was cancelled or not, and each of these rules
has asked the same questions. -/
structure Session.Agree (about : Rule → Prop) (s t : Session) : Prop where
  cancelled_eq : s.cancelled = t.cancelled
  callsOf_eq : ∀ rule, about rule → s.callsOf rule = t.callsOf rule

theorem Session.Agree.refl (about : Rule → Prop) (s : Session) : s.Agree about s :=
  ⟨rfl, fun _ _ => rfl⟩

theorem Result.outcome?_eq_head? (r : Result) (rule : Rule) :
    r.outcome? rule = (r.outcomesOf rule).head? :=
  List.head?_filter.symm

namespace Engine

section

variable (e : Engine) {rules : List Rule} {about : Rule → Prop}
  (hcount : ∀ rule, about rule → rules.count rule = e.rules.count rule)
include hcount

/-- A commit leaves sessions in agreement about the rules that both engines list equally often. -/
theorem agree_validate {s t : Session} (h : s.Agree about t) (c : Commit) :
    ((e.withRules rules).validate c s).2.Agree about (e.validate c t).2 := by
  refine ⟨?_, fun rule hrule => ?_⟩
  · rw [cancelled_validate, cancelled_validate, h.cancelled_eq]
  · rw [callsOf_validate, callsOf_validate, h.callsOf_eq rule hrule, h.cancelled_eq]
    simp only [withRules, hcount rule hrule]

theorem agree_validateAll {s t : Session} (h : s.Agree about t) (commits : List Commit) :
    ((e.withRules rules).validateAll commits s).2.Agree about
      (e.validateAll commits t).2 := by
  induction commits generalizing s t with
  | nil => exact h
  | cons c commits ih => exact ih (e.agree_validate hcount h c)

/-- A rule that both engines list equally often says the same about a commit. -/
theorem outcome?_validate {s t : Session} (h : s.Agree about t) (c : Commit) {rule : Rule}
    (hrule : about rule) :
    ((e.withRules rules).validate c s).1.outcome? rule = (e.validate c t).1.outcome? rule := by
  rw [Result.outcome?_eq_head?, Result.outcome?_eq_head?, outcomesOf_validate,
    outcomesOf_validate, h.callsOf_eq rule hrule, h.cancelled_eq]
  simp only [withRules, hcount rule hrule]

theorem outcome?_validateAll {s t : Session} (h : s.Agree about t) (commits : List Commit)
    {rule : Rule} (hrule : about rule) :
    ((e.withRules rules).validateAll commits s).1.map (·.outcome? rule) =
      (e.validateAll commits t).1.map (·.outcome? rule) := by
  induction commits generalizing s t with
  | nil => rfl
  | cons c commits ih =>
    exact List.cons_eq_cons.mpr
      ⟨e.outcome?_validate hcount h c hrule, ih (e.agree_validate hcount h c)⟩

end

section

variable (e : Engine) (hnodup : e.rules.Nodup) {rules : List Rule} (hperm : rules.Perm e.rules)
include hnodup hperm

/-- The order of distinct rules does not matter for a commit. -/
theorem validate_perm {s t : Session} (h : s.Agree (fun _ => True) t) (c : Commit) :
    ((e.withRules rules).validate c s).1 = (e.validate c t).1 := by
  have hnodup' : rules.Nodup := hperm.nodup_iff.mpr hnodup
  have hactive : (e.withRules rules).activeRules = e.activeRules :=
    activeRules_eq_of_perm hperm
  rw [validate_of_nodup (e.withRules rules) hnodup', validate_of_nodup e hnodup, hactive,
    h.cancelled_eq]
  refine congrArg (Result.mk c) (List.map_congr_left fun rule _ => ?_)
  rw [h.callsOf_eq rule trivial]
  rfl

theorem validateAll_perm {s t : Session} (h : s.Agree (fun _ => True) t) (commits : List Commit) :
    ((e.withRules rules).validateAll commits s).1 = (e.validateAll commits t).1 := by
  induction commits generalizing s t with
  | nil => rfl
  | cons c commits ih =>
    have hnext := e.agree_validate (fun rule _ => hperm.count_eq rule) h c
    exact List.cons_eq_cons.mpr ⟨e.validate_perm hnodup hperm h c, ih hnext⟩

end

/-! ### Runs -/

theorem commit_validateAll (e : Engine) (commits : List Commit) (s : Session) :
    (e.validateAll commits s).1.map Result.commit = commits := by
  induction commits generalizing s with
  | nil => rfl
  | cons c commits ih => exact List.cons_eq_cons.mpr ⟨rfl, ih _⟩

/-- Each result of a run is that of a commit in some session. -/
theorem exists_of_mem_validateAll {e : Engine} {commits : List Commit} {s : Session} {r : Result}
    (h : r ∈ (e.validateAll commits s).1) : ∃ c t, r = (e.validate c t).1 := by
  induction commits generalizing s with
  | nil => cases h
  | cons c commits ih =>
    obtain rfl | htail := List.mem_cons.mp h
    · exact ⟨c, s, rfl⟩
    · exact ih htail

/-- Where no rule is listed twice, a result of a run has the rules in the order of their names. -/
theorem rules_of_mem_validateAll {e : Engine} (hnodup : e.rules.Nodup) {commits : List Commit}
    {s : Session} {r : Result} (h : r ∈ (e.validateAll commits s).1) :
    r.outcomes.map Outcome.rule = e.activeRules := by
  obtain ⟨c, t, rfl⟩ := exists_of_mem_validateAll h
  rw [validate_of_nodup e hnodup, List.map_map]
  have hrule : ∀ rule ∈ e.activeRules, (Outcome.rule ∘ fun r : Rule =>
      r.outcome e.settings e.team c t.cancelled (t.callsOf r).length) rule = id rule :=
    fun rule _ => Rule.rule_outcome rule e.settings e.team c t.cancelled _
  rw [List.map_congr_left hrule, List.map_id]

/-- A run over some commits depends neither on the order of the rules nor, for what one rule says,
on the other rules. -/
theorem validateAll_independent (e : Engine) (hnames : (e.rules.map Rule.name).Nodup)
    (commits : List Commit) (s : Session) :
    let full := e.validateAll commits s
    full.1.map Result.commit = commits ∧
    (∀ r ∈ full.1, (r.outcomes.map Outcome.rule).Perm e.rules ∧
      r.outcomes.Pairwise fun o p => o.rule.name < p.rule.name) ∧
    (∀ rules : List Rule, rules.Perm e.rules →
      let other := (e.withRules rules).validateAll commits s
      other.1 = full.1 ∧
      Summary.ofResults other.1 = Summary.ofResults full.1 ∧
      other.2.calls.filter Call.isAhead = full.2.calls.filter Call.isAhead ∧
      other.2.calls.filter Call.isVerify = full.2.calls.filter Call.isVerify) ∧
    ∀ rules : List Rule, rules.Sublist e.rules → ∀ rule ∈ rules,
      ((e.withRules rules).validateAll commits s).1.map (·.outcome? rule) =
        full.1.map (·.outcome? rule) := by
  have hnodup := Rule.nodup_of_names hnames
  refine ⟨e.commit_validateAll commits s, fun r hr => ?_, fun rules hperm => ?_,
    fun rules hsub rule hrule => ?_⟩
  · have hrules := rules_of_mem_validateAll hnodup hr
    have hsorted := e.pairwise_name_activeRules hnodup
    rw [← hrules, List.pairwise_map] at hsorted
    exact ⟨hrules ▸ e.activeRules_perm, hsorted⟩
  · have hagree : s.Agree (fun _ => True) s := .refl _ s
    have hresults := e.validateAll_perm hnodup hperm hagree commits
    have hafter := e.agree_validateAll (fun rule _ => hperm.count_eq rule) hagree commits
    refine ⟨hresults, congrArg Summary.ofResults hresults, ?_, ?_⟩
    · rw [← Session.callsOf_commitsAhead, hafter.callsOf_eq .commitsAhead trivial,
        Session.callsOf_commitsAhead]
    · rw [← Session.callsOf_signedIdentity, hafter.callsOf_eq .signedIdentity trivial,
        Session.callsOf_signedIdentity]
  · have hcount : ∀ r, r ∈ rules → rules.count r = e.rules.count r := fun r hr => by
      rw [(hnodup.sublist hsub).count, hnodup.count, if_pos hr, if_pos (hsub.subset hr)]
    exact e.outcome?_validateAll hcount (.refl _ s) commits hrule

/-- Three rules, two of which ask, listed in another order; and one of them alone. -/
theorem validateAll_independent_scripted :
    let e : Engine :=
      { settings := {}
        rules := [.subjectSuffix, .commitsAhead, .signedIdentity]
        team :=
          { ahead := some (scripted (.ok 1) [.error .cancelled])
            verify := some (scripted (.error .badSignature) [.ok { name := "bot" }]) } }
    let commits : List Commit := [{ message := "feat: add it" }, { message := "Fix it." }]
    (e.rules.map Rule.name).Nodup ∧
      ((e.withRules [.signedIdentity, .subjectSuffix, .commitsAhead]).validateAll commits {}).1 =
        (e.validateAll commits {}).1 ∧
      ((e.withRules [.commitsAhead]).validateAll commits {}).1.map (·.outcome? .commitsAhead) =
        (e.validateAll commits {}).1.map (·.outcome? .commitsAhead) := by
  intro e commits
  have hnames : (e.rules.map Rule.name).Nodup := by decide
  obtain ⟨-, -, hperm, hsub⟩ := e.validateAll_independent hnames commits {}
  exact ⟨hnames, (hperm _ (by decide)).1, hsub _ (by decide) .commitsAhead (by decide)⟩

end Engine

end CommitLint
