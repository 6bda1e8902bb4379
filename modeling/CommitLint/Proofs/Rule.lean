import CommitLint.Rule.Basic
import Mathlib.Data.List.Basic

/-!
# The rules by name

Twelve rules have twelve names, which are words of small letters (`name_injective`,
`isLower_of_mem_name`). Their order is the order of these names (`rank_lt_iff`), and a total one, so
sorting by it leaves no choice.
-/

namespace CommitLint.Rule

theorem mem_all (rule : Rule) : rule ∈ all := by cases rule <;> decide

theorem nodup_all : all.Nodup := by decide

/-! ### Names -/

theorem name_injective : Function.Injective name := by
  intro r s
  cases r <;> cases s <;> decide

theorem isLower_of_mem_name (rule : Rule) : ∀ c ∈ rule.name.toList, c.isLower := by
  have hall : rule.name.toList.all Char.isLower := by cases rule <;> rfl
  exact List.all_eq_true.mp hall

/-- Rules with distinct names are distinct. -/
theorem nodup_of_names {rules : List Rule} (h : (rules.map name).Nodup) : rules.Nodup :=
  List.Pairwise.of_map name (fun _ _ hne heq => hne (congrArg name heq)) h

/-! ### Sorting by name -/

/-- The place of a rule in the list of all rules is its place in the order of the names. -/
theorem rank_lt_iff (r s : Rule) : r.rank < s.rank ↔ r.name < s.name := by
  -- Twelve rules make few pairs, so the names are simply compared.
  have h : ∀ r ∈ all, ∀ s ∈ all, r.rank < s.rank ↔ r.name < s.name := by decide +kernel
  exact h r (mem_all r) s (mem_all s)

theorem rank_inj {r s : Rule} : r.rank = s.rank ↔ r = s := List.idxOf_inj (mem_all r)

theorem le_antisymm {r s : Rule} (hrs : r.le s) (hsr : s.le r) : r = s := by
  refine rank_inj.mp ?_
  simp only [le, decide_eq_true_eq] at hrs hsr
  omega

theorem le_trans (r s t : Rule) (hrs : r.le s) (hst : s.le t) : r.le t := by
  simp only [le, decide_eq_true_eq] at *
  omega

theorem le_total (r s : Rule) : r.le s || s.le r := by
  simp only [le, Bool.or_eq_true, decide_eq_true_eq]
  omega

end CommitLint.Rule
