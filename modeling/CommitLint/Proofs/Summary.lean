import CommitLint.Proofs.Rule
import CommitLint.Summary
import Mathlib.Data.List.Induction
import Mathlib.Tactic.SplitIfs

/-!
# What a summary counts

A summary counts results in three ways and findings by rule, each on its own. The counts fit
together (`ofResults_adds_up`): every result passed or failed, and every finding is counted once,
for the rule that it names. The reason for the latter is that the counts by rule are what one pass
over the findings leaves that adds one to the entry of a rule for each finding of it
(`countByRule_eq_tally`), so each finding makes their sum greater by one.

All counts are numbers of members. So those of two lists of results, one after the other, are the
sums of the counts of each list, and the order of the results does not matter.
-/

namespace CommitLint

namespace Result

theorem passed_eq_isEmpty (r : Result) : r.passed = r.findings.isEmpty := by
  rw [Bool.eq_iff_iff, passed, List.all_eq_true, List.isEmpty_iff, findings,
    List.flatMap_eq_nil_iff]
  exact forall₂_congr fun o _ => List.isEmpty_iff

/-- The number of findings, summed up over the outcomes. -/
def findingCount (r : Result) : Nat := r.outcomes.foldl (fun n o => n + o.findings.length) 0

end Result

namespace Summary

/-! ### Sums -/

theorem foldl_add_eq {α : Type} (f : α → Nat) (l : List α) (n : Nat) :
    l.foldl (fun n a => n + f a) n = n + l.foldl (fun n a => n + f a) 0 := by
  induction l generalizing n with
  | nil => rfl
  | cons a l ih =>
    rw [List.foldl_cons, List.foldl_cons, ih, ih (0 + f a), Nat.zero_add, Nat.add_assoc]

theorem length_flatMap_eq_foldl {α β : Type} (g : α → List β) (l : List α) :
    (l.flatMap g).length = l.foldl (fun n a => n + (g a).length) 0 := by
  induction l with
  | nil => rfl
  | cons a l ih =>
    rw [List.flatMap_cons, List.length_append, ih, List.foldl_cons,
      foldl_add_eq (fun a => (g a).length) l (0 + _), Nat.zero_add]

theorem length_flatMap_findings (results : List Result) :
    (results.flatMap Result.findings).length =
      results.foldl (fun n r => n + r.findingCount) 0 := by
  rw [length_flatMap_eq_foldl]
  simp only [Result.findings, length_flatMap_eq_foldl, Result.findingCount]

/-! ### Counting in one pass -/

/-- The counts with one more finding of a rule. The rules stay in the order of their names. -/
def bump (rule : Rule) : List (Rule × Nat) → List (Rule × Nat)
  | [] => [(rule, 1)]
  | (r, n) :: counts =>
    if rule = r then (r, n + 1) :: counts
    else if rule.rank < r.rank then (rule, 1) :: (r, n) :: counts
    else (r, n) :: bump rule counts

/-- The counts after one pass over some findings. -/
def tally (findings : List Finding) : List (Rule × Nat) :=
  findings.foldl (fun counts f => bump f.rule counts) []

/-- The rules that a count is not zero for, with their counts. -/
def nonzero (rules : List Rule) (count : Rule → Nat) : List (Rule × Nat) :=
  (rules.map fun rule => (rule, count rule)).filter (·.2 != 0)

theorem countByRule_eq_nonzero (findings : List Finding) :
    countByRule findings =
      nonzero Rule.all fun rule => findings.countP (·.rule == rule) := rfl

theorem nonzero_cons (rule : Rule) (rules : List Rule) (count : Rule → Nat) :
    nonzero (rule :: rules) count =
      if count rule = 0 then nonzero rules count
      else (rule, count rule) :: nonzero rules count := by
  rw [nonzero, List.map_cons, List.filter_cons, ← nonzero]
  by_cases h : count rule = 0 <;> simp [h]

theorem nonzero_congr {rules : List Rule} {count count' : Rule → Nat}
    (h : ∀ rule ∈ rules, count' rule = count rule) :
    nonzero rules count' = nonzero rules count := by
  rw [nonzero, nonzero, List.map_congr_left fun rule hrule => by rw [h rule hrule]]

theorem mem_of_mem_nonzero {rules : List Rule} {count : Rule → Nat} {e : Rule × Nat}
    (h : e ∈ nonzero rules count) : e.1 ∈ rules := by
  obtain ⟨rule, hrule, rfl⟩ := List.mem_map.mp (List.mem_of_mem_filter h)
  exact hrule

theorem bump_of_forall_lt {rule : Rule} {counts : List (Rule × Nat)}
    (h : ∀ e ∈ counts, rule.rank < e.1.rank) : bump rule counts = (rule, 1) :: counts := by
  cases counts with
  | nil => rfl
  | cons e counts =>
    have hlt := h e List.mem_cons_self
    rw [bump, if_neg, if_pos hlt]
    rintro rfl
    exact Nat.lt_irrefl _ hlt

/-- One more finding of a rule changes the count of this rule, wherever the rule stands. -/
theorem bump_nonzero {rules : List Rule} (hrules : rules.Pairwise (·.rank < ·.rank)) {rule : Rule}
    (hmem : rule ∈ rules) {count count' : Rule → Nat} (hrule : count' rule = count rule + 1)
    (hother : ∀ r, r ≠ rule → count' r = count r) :
    bump rule (nonzero rules count) = nonzero rules count' := by
  induction rules with
  | nil => exact absurd hmem List.not_mem_nil
  | cons r rules ih =>
    obtain ⟨hlt, hrest⟩ := List.pairwise_cons.mp hrules
    rw [nonzero_cons, nonzero_cons]
    by_cases heq : rule = r
    · subst heq
      have hsame : nonzero rules count' = nonzero rules count := by
        refine nonzero_congr fun r hr => hother r ?_
        rintro rfl
        exact Nat.lt_irrefl _ (hlt _ hr)
      rw [hrule, if_neg (Nat.succ_ne_zero _), hsame]
      by_cases hzero : count rule = 0
      · rw [if_pos hzero, hzero]
        exact bump_of_forall_lt fun e he => hlt e.1 (mem_of_mem_nonzero he)
      · rw [if_neg hzero, bump, if_pos rfl]
    · have hmem := (List.mem_cons.mp hmem).resolve_left heq
      rw [hother r (Ne.symm heq), ← ih hrest hmem]
      by_cases hzero : count r = 0
      · rw [if_pos hzero, if_pos hzero]
      · rw [if_neg hzero, if_neg hzero, bump, if_neg heq, if_neg (Nat.lt_asymm (hlt rule hmem))]

theorem countByRule_concat (findings : List Finding) (f : Finding) :
    countByRule (findings ++ [f]) = bump f.rule (countByRule findings) := by
  refine (bump_nonzero (by decide) f.rule.mem_all ?_ fun r hr => ?_).symm
  · simp
  · simp [Ne.symm hr]

/-- Counting the findings of each rule comes to one pass over all findings. -/
theorem countByRule_eq_tally (findings : List Finding) :
    countByRule findings = tally findings := by
  induction findings using List.reverseRecOn with
  | nil => rfl
  | append_singleton findings f ih =>
    rw [countByRule_concat, ih, tally, tally, List.foldl_append]
    rfl

/-- Whatever the rule, its entry is one greater or one entry is there that was not. -/
theorem foldl_add_bump (rule : Rule) (counts : List (Rule × Nat)) :
    (bump rule counts).foldl (fun n entry => n + entry.2) 0 =
      counts.foldl (fun n entry => n + entry.2) 0 + 1 := by
  induction counts with
  | nil => rfl
  | cons e counts ih =>
    have hsum := foldl_add_eq (Prod.snd : Rule × Nat → Nat)
    rw [bump]
    split_ifs
    · rw [List.foldl_cons, List.foldl_cons, hsum, hsum counts (0 + e.2)]
      omega
    · rw [List.foldl_cons, hsum, List.foldl_cons, hsum counts (0 + e.2)]
      omega
    · rw [List.foldl_cons, hsum, ih, List.foldl_cons, hsum counts (0 + e.2)]
      omega

/-- Every finding is counted once. -/
theorem foldl_add_countByRule (findings : List Finding) :
    (countByRule findings).foldl (fun n entry => n + entry.2) 0 = findings.length := by
  induction findings using List.reverseRecOn with
  | nil => rfl
  | append_singleton findings f ih =>
    rw [countByRule_concat, foldl_add_bump, ih, List.length_append, List.length_singleton]

/-! ### The counts by rule -/

theorem lookup_nonzero (rules : List Rule) (count : Rule → Nat) (rule : Rule) :
    (nonzero rules count).lookup rule =
      if rule ∈ rules ∧ count rule ≠ 0 then some (count rule) else none := by
  induction rules with
  | nil => rfl
  | cons r rules ih =>
    rw [nonzero_cons]
    by_cases heq : rule = r
    · subst heq
      by_cases hzero : count rule = 0 <;> simp [hzero, ih]
    · have hne : (rule == r) = false := beq_eq_false_iff_ne.mpr heq
      by_cases hzero : count r = 0 <;> simp [hzero, ih, heq, hne, List.lookup_cons]

/-- A rule has an entry exactly if there are findings of it, and the entry holds their number. -/
theorem lookup_countByRule (findings : List Finding) (rule : Rule) :
    (countByRule findings).lookup rule =
      if findings.countP (·.rule == rule) = 0 then none
      else some (findings.countP (·.rule == rule)) := by
  rw [countByRule_eq_nonzero, lookup_nonzero]
  by_cases hzero : findings.countP (·.rule == rule) = 0 <;> simp [hzero, rule.mem_all]

theorem countByRule_eq_of_perm {findings findings' : List Finding} (h : findings'.Perm findings) :
    countByRule findings' = countByRule findings := by
  rw [countByRule_eq_nonzero, countByRule_eq_nonzero]
  exact nonzero_congr fun rule _ => h.countP_eq _

/-- The number of findings that a summary counts for a rule. -/
def failures (s : Summary) (rule : Rule) : Nat := (s.ruleFailures.lookup rule).getD 0

theorem failures_ofResults (results : List Result) (rule : Rule) :
    (ofResults results).failures rule =
      (results.flatMap Result.findings).countP (·.rule == rule) := by
  rw [failures, ofResults, lookup_countByRule]
  split_ifs with hzero
  · exact hzero.symm
  · rfl

/-! ### Whole summaries -/

theorem findingCount_ofResults (results : List Result) :
    (ofResults results).findingCount = results.foldl (fun n r => n + r.findingCount) 0 := by
  rw [← length_flatMap_findings]
  exact foldl_add_countByRule _

theorem passed_add_failed (results : List Result) :
    (ofResults results).passed + (ofResults results).failed = (ofResults results).total :=
  Nat.add_sub_cancel' List.countP_le_length

/-- A commit failed if something was found. -/
theorem failed_ofResults (results : List Result) :
    (ofResults results).failed = results.countP (!·.findings.isEmpty) := by
  have hsplit := List.length_eq_countP_add_countP Result.passed (l := results)
  have hfailed : ∀ r ∈ results,
      decide ¬r.passed = true ↔ (!r.findings.isEmpty) = true := fun r _ => by
    rw [decide_eq_true_eq, r.passed_eq_isEmpty, Bool.not_eq_true', Bool.not_eq_true]
  rw [List.countP_congr hfailed] at hsplit
  exact Nat.sub_eq_of_eq_add' hsplit

/-- No commit failed exactly if nothing was found at all. -/
theorem allPassed_ofResults (results : List Result) :
    (ofResults results).allPassed ↔ results.flatMap Result.findings = [] := by
  rw [allPassed, beq_iff_eq, failed_ofResults, List.countP_eq_zero, List.flatMap_eq_nil_iff]
  refine forall₂_congr fun r _ => ?_
  rw [Bool.not_eq_true, Bool.not_eq_false', List.isEmpty_iff]

/-- The counts of a summary are the sums of the counts of two others. -/
structure IsSum (s t u : Summary) : Prop where
  total : s.total = t.total + u.total
  passed : s.passed = t.passed + u.passed
  failed : s.failed = t.failed + u.failed
  failures : ∀ rule, s.failures rule = t.failures rule + u.failures rule
  findingCount : s.findingCount = t.findingCount + u.findingCount

theorem isSum_append (results more : List Result) :
    (ofResults (results ++ more)).IsSum (ofResults results) (ofResults more) where
  total := List.length_append
  passed := List.countP_append
  failed := by
    rw [failed_ofResults, failed_ofResults, failed_ofResults, List.countP_append]
  failures rule := by
    rw [failures_ofResults, failures_ofResults, failures_ofResults, List.flatMap_append,
      List.countP_append]
  findingCount := by
    rw [findingCount_ofResults, findingCount_ofResults, findingCount_ofResults,
      ← length_flatMap_findings, ← length_flatMap_findings, ← length_flatMap_findings,
      List.flatMap_append, List.length_append]

/-- The order of the results is kept, and makes no difference to what is counted. -/
theorem ofResults_eq_of_perm {results other : List Result} (h : other.Perm results) :
    ofResults other = { ofResults results with results := other } := by
  have hpassed : other.countP Result.passed = results.countP Result.passed := h.countP_eq _
  have hfindings := countByRule_eq_of_perm (h.flatMap_right Result.findings)
  simp only [ofResults, h.length_eq, hpassed, hfindings]

/-- The counts of a summary fit together, whatever the results: each result passed or failed, each
finding is counted for the rule that it names, the line about a failed run gives the number of all
findings, and nothing failed exactly if there are none. Counts add up over lists of results, and do
not depend on their order. -/
theorem ofResults_adds_up (results : List Result) :
    let s := ofResults results
    let findings := results.flatMap Result.findings
    let errors := results.foldl (fun n r => n + r.findingCount) 0
    s.total = results.length ∧ s.passed + s.failed = s.total ∧
      s.failed = results.countP (!·.findings.isEmpty) ∧
      s.ruleFailures = tally findings ∧
      (∀ rule, s.ruleFailures.lookup rule =
        if findings.countP (·.rule == rule) = 0 then none
        else some (findings.countP (·.rule == rule))) ∧
      s.ruleFailures.foldl (fun n entry => n + entry.2) 0 = errors ∧
      (s.failed ≠ 0 →
        s.text = s!"{s.failed} of {s.total} commits failed ({errors} errors)") ∧
      (s.allPassed ↔ findings = []) ∧
      (∀ more, (ofResults (results ++ more)).IsSum s (ofResults more)) ∧
      ∀ other, other.Perm results → ofResults other = { s with results := other } := by
  intro s findings errors
  have hcount : s.findingCount = errors := findingCount_ofResults results
  refine ⟨rfl, passed_add_failed results, failed_ofResults results, countByRule_eq_tally findings,
    lookup_countByRule findings, hcount, fun h => ?_, allPassed_ofResults results,
    isSum_append results, fun other => ofResults_eq_of_perm⟩
  have hall : s.allPassed = false := beq_eq_false_iff_ne.mpr h
  rw [← hcount, text, hall]
  rfl

/-- Results of two commits, one of them with an outcome that names other rules. -/
def handMade : List Result :=
  [⟨{ message := "feat: a" }, [{ rule := .spell }]⟩,
    ⟨{ message := "feat: b" },
      [{ rule := .signOff,
         findings :=
          [{ rule := .spell, code := .misspelling, message := "teh" },
            { rule := .signOff, code := .missingSignoff, message := "" }] },
        { rule := .spell,
          findings := [{ rule := .spell, code := .misspelling, message := "teh" }] }]⟩]

theorem ofResults_adds_up_handMade :
    let s := ofResults handMade
    s.failed ≠ 0 ∧ s.text = "1 of 2 commits failed (3 errors)" ∧
      s.ruleFailures.lookup .spell = some 2 ∧ s.ruleFailures.lookup .jiraReference = none ∧
      handMade.reverse.Perm handMade ∧
      ofResults handMade.reverse = { s with results := handMade.reverse } ∧
      (ofResults (handMade ++ handMade)).IsSum s s := by
  intro s
  have hfailed : s.failed ≠ 0 := by decide
  have hperm : handMade.reverse.Perm handMade := List.reverse_perm handMade
  obtain ⟨-, -, -, -, hlookup, -, htext, -, hsum, horder⟩ := ofResults_adds_up handMade
  exact ⟨hfailed, htext hfailed, hlookup .spell, hlookup .jiraReference, hperm,
    horder handMade.reverse hperm, hsum handMade⟩

end Summary

end CommitLint
