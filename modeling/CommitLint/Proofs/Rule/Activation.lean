import CommitLint.Proofs.Engine.Independence
import CommitLint.Proofs.Json.Render
import CommitLint.Proofs.Text.Pieces
import CommitLint.Workspace
import Mathlib.Data.List.Forall2

/-!
# Which rules are active

A rule is active if an entry of the enabled ones means it, or if no entry of the disabled ones does
and it is not off by default (`mem_active_iff`). An entry is compared with the name of a rule in
normal form, and names of rules are in that form (`cleanName_name`), so this is the same as looking
up the rule that the entry means (`ofName?_eq_some_iff`).

All that matters of a list is therefore which rules its entries mean: not how often and in which
order they are named, nor how they are spelled, nor what else is in the list (`Edit.meant_iff`,
`active_congr`). What an engine runs and what the listing of rules marks are these rules.
-/

namespace CommitLint

open Text

namespace Rule

/-! ### What entries mean -/

/-- The rules that the entries of a list mean. -/
def meant (entries : List String) : List Rule := entries.filterMap (ofName? ·.toList)

theorem mem_meant {entries : List String} {rule : Rule} :
    rule ∈ meant entries ↔ ∃ e ∈ entries, ofName? e.toList = some rule :=
  List.mem_filterMap

theorem meant_append (entries more : List String) :
    meant (entries ++ more) = meant entries ++ meant more :=
  List.filterMap_append

/-- A change to a list of entries: they are put in another order, one of them is repeated, one is
spelled in another way, or one is added that means no rule. -/
inductive Edit : List String → List String → Prop
  | reorder {entries entries' : List String} : entries'.Perm entries → Edit entries entries'
  | repeated {entries : List String} {e : String} : e ∈ entries → Edit entries (e :: entries)
  | respelled {before after : List String} {e e' : String} :
      ofName? e'.toList = ofName? e.toList → Edit (before ++ e :: after) (before ++ e' :: after)
  | unknown {entries : List String} {e : String} : ofName? e.toList = none →
      Edit entries (e :: entries)

/-- No such change makes a difference to the rules that are meant. -/
theorem Edit.meant_iff {entries entries' : List String} (h : Edit entries entries') (rule : Rule) :
    rule ∈ meant entries' ↔ rule ∈ meant entries := by
  cases h with
  | reorder hperm => exact (hperm.filterMap _).mem_iff
  | @repeated _ e he =>
    rw [mem_meant, mem_meant, List.exists_mem_cons_iff]
    exact or_iff_right_of_imp fun h => ⟨e, he, h⟩
  | respelled hsame =>
    simp only [meant, List.filterMap_append, List.filterMap_cons, hsame]
  | unknown hnone =>
    rw [mem_meant, mem_meant, List.exists_mem_cons_iff, hnone]
    exact or_iff_right (Option.some_ne_none rule ∘ Eq.symm)

/-- The name of a rule is in normal form. -/
theorem cleanName_name (rule : Rule) : cleanName rule.name.toList = rule.name.toList := by
  cases rule <;> decide +kernel

theorem ofName?_eq_some_iff {name : List Char} {rule : Rule} :
    ofName? name = some rule ↔ cleanName name = rule.name.toList := by
  constructor
  · intro h
    have hname := List.find?_some h
    exact (beq_iff_eq.mp hname).symm
  · intro h
    have hsome : (ofName? name).isSome :=
      List.find?_isSome.mpr ⟨rule, rule.mem_all, beq_iff_eq.mpr h.symm⟩
    obtain ⟨r, hr⟩ := Option.isSome_iff_exists.mp hsome
    have hname := List.find?_some hr
    rw [hr, name_injective (String.toList_inj.mp ((beq_iff_eq.mp hname).trans h))]

theorem isListed_iff {rule : Rule} {entries : List String} :
    isListed rule.name.toList (entries.map String.toList) ↔ rule ∈ meant entries := by
  simp only [isListed, List.any_map, List.any_eq_true, Function.comp, beq_iff_eq, cleanName_name,
    mem_meant, ofName?_eq_some_iff]

/-! ### The active rules -/

theorem contains_offByDefault_iff (rule : Rule) :
    offByDefault.contains (cleanName rule.name.toList) ↔
      rule ∈ [jiraReference, commitBody, spell] := by
  rw [cleanName_name]
  cases rule <;> decide

theorem mem_active_iff {enabled disabled : List String} {rule : Rule} :
    rule ∈ active enabled disabled ↔
      rule ∈ meant enabled ∨
        rule ∉ meant disabled ∧ rule ∉ [jiraReference, commitBody, spell] := by
  rw [active, List.mem_filter, and_iff_right rule.mem_all, isActive, Bool.or_eq_true,
    Bool.and_eq_true, Bool.not_eq_true', Bool.not_eq_true', ← Bool.not_eq_true, ← Bool.not_eq_true,
    isListed_iff, isListed_iff, contains_offByDefault_iff]

/-- Lists that mean the same rules make the same rules active. -/
theorem active_congr {enabled enabled' disabled disabled' : List String}
    (henabled : ∀ rule, rule ∈ meant enabled' ↔ rule ∈ meant enabled)
    (hdisabled : ∀ rule, rule ∈ meant disabled' ↔ rule ∈ meant disabled) :
    active enabled' disabled' = active enabled disabled := by
  refine List.filter_congr fun rule _ => Bool.eq_iff_iff.mpr ?_
  have hmem : ∀ enabled disabled, isActive rule.name.toList (enabled.map String.toList)
      (disabled.map String.toList) ↔ rule ∈ active enabled disabled := fun enabled disabled => by
    rw [active, List.mem_filter, and_iff_right rule.mem_all]
  rw [hmem, hmem, mem_active_iff, mem_active_iff, henabled, hdisabled]

/-- The active rules stand in the order of the names. -/
theorem pairwise_active (enabled disabled : List String) :
    (active enabled disabled).Pairwise fun r s => r.name < s.name := by
  have hall : all.Pairwise fun r s => r.rank < s.rank := by decide
  exact (hall.imp fun {r s} => (rank_lt_iff r s).mp).sublist List.filter_sublist

end Rule

/-- The rules of an engine are in order already. -/
theorem Engine.activeRules_ofSettings (s : Settings) (team : Collaborators) :
    (Engine.ofSettings s team).activeRules = Rule.active s.rules.enabled s.rules.disabled := by
  refine List.mergeSort_of_pairwise ((Rule.pairwise_active _ _).imp fun {r r'} h => ?_)
  rw [Rule.le, decide_eq_true_eq]
  exact Nat.le_of_lt ((Rule.rank_lt_iff r r').mpr h)

/-! ### The listing -/

namespace Workspace

/-- What a line of the listing starts with. -/
def lineStart (active : Bool) (rule : Rule) : List Char :=
  (if active then "✓ " else "✗ ").toList ++ rule.name.toList ++ [' ']

/-- The listing of rules, as lines and as a document, marks the rules of a list as active. -/
structure ListsActive (s : Settings) (rules : List Rule) : Prop where
  lines : ∀ format, format ≠ .json →
    ∃ lines, pieces '\n' (rulesText format s).toList = lines ++ [[]] ∧
      List.Forall₂ (fun rule line => lineStart (rule ∈ rules) rule <+: line) Rule.all lines
  document : Json.read? (rulesText .json s).toList =
    some (.array (Rule.all.map fun rule => .object
      [("active", .bool (rule ∈ rules)), ("description", .text rule.description),
        ("name", .text rule.name)]))

theorem isActive_eq (s : Settings) (rule : Rule) :
    isActive s rule = decide (rule ∈ Rule.active s.rules.enabled s.rules.disabled) := by
  rw [Bool.eq_iff_iff, decide_eq_true_eq, Rule.active, List.mem_filter,
    and_iff_right rule.mem_all, isActive]

/-- What follows the mark and the name in a line. -/
def lineRest (rule : Rule) : List Char :=
  List.replicate (nameWidth - rule.name.length) ' ' ++ rule.description.toList

/-- A line of the listing, without the line feed. -/
def lineOf (s : Settings) (rule : Rule) : List Char :=
  lineStart (rule ∈ Rule.active s.rules.enabled s.rules.disabled) rule ++ lineRest rule

theorem toList_ruleLine (s : Settings) (rule : Rule) :
    (ruleLine s rule).toList = lineOf s rule ++ ['\n'] := by
  have hmark : ∀ active : Bool, (if active then "✓ " else "✗ ").toList =
      (if active then "✓" else "✗").toList ++ [' '] := by decide
  have hspace : " ".toList = [' '] := by decide
  have hfeed : "\n".toList = ['\n'] := by decide
  have hstring : ∀ text : String, toString text = text := fun _ => rfl
  -- The blank before the description stands after the gap, or as well before it.
  have hgap : ∀ (n : Nat) (rest : List Char),
      [' '] ++ (List.replicate n ' ' ++ rest) = List.replicate n ' ' ++ ([' '] ++ rest) := by
    intro n rest
    rw [← List.append_assoc, ← List.append_assoc, List.singleton_append, ← List.replicate_succ,
      List.replicate_succ']
  delta ruleLine
  simp only [hstring, String.toList_append, String.toList_ofList, isActive_eq, hspace, hfeed,
    lineOf, lineStart, lineRest, hmark, List.append_assoc, hgap]

theorem lineFeed_notMem_lineOf (s : Settings) (rule : Rule) : '\n' ∉ lineOf s rule := by
  have hall : ∀ active : Bool, ∀ rule ∈ Rule.all,
      '\n' ∉ lineStart active rule ++ lineRest rule := by
    decide +kernel
  exact hall _ rule rule.mem_all

theorem listsActive (s : Settings) :
    ListsActive s (Rule.active s.rules.enabled s.rules.disabled) where
  lines format hformat := by
    have htext : rulesText format s = String.join (Rule.all.map (ruleLine s)) := by
      cases format with
      | json => exact absurd rfl hformat
      | text => rfl
      | github => rfl
    have hjoin : (rulesText format s).toList =
        (Rule.all.map (lineOf s)).flatMap (· ++ ['\n']) := by
      rw [htext, String.toList_join, List.flatMap_map, List.flatMap_map]
      exact congrArg (Rule.all.flatMap ·) (funext (toList_ruleLine s))
    have hline : ∀ line ∈ Rule.all.map (lineOf s), '\n' ∉ line := by
      rw [List.forall_mem_map]
      exact fun rule _ => lineFeed_notMem_lineOf s rule
    refine ⟨Rule.all.map (lineOf s), ?_, ?_⟩
    · have hpieces := pieces_flatMap hline []
      rw [List.append_nil] at hpieces
      rw [hjoin, hpieces]
      rfl
    · rw [List.forall₂_map_right_iff, List.forall₂_same]
      exact fun rule _ => List.prefix_append _ _
  document := by
    have hread : Json.Spells (.array (Rule.all.map (ruleValue s))) (rulesText .json s).toList := by
      obtain ⟨before, text, after, hbefore, htext, hafter, heq⟩ :=
        Json.spells_document (.array (Rule.all.map (ruleValue s)))
      refine ⟨before, text, after ++ ['\n'], hbefore, htext,
        hafter.append (Json.isBlank_newline 0), ?_⟩
      rw [rulesText, String.toList_append, heq]
      simp only [List.append_assoc]
      rfl
    have hvalue : ruleValue s = fun rule => .object
        [("active", .bool (rule ∈ Rule.active s.rules.enabled s.rules.disabled)),
          ("description", .text rule.description), ("name", .text rule.name)] :=
      funext fun rule => by rw [ruleValue, isActive_eq]
    rw [Json.read?_eq_some_iff.mpr hread, hvalue]

end Workspace

/-! ### The laws of activation -/

/-- A rule is active exactly if an enabled entry means it, or no disabled entry does and it is not
off by default. These are the rules that an engine runs and that the listing marks, each once and
in the order of the names. Changes to the lists that keep what they mean keep the active rules;
enabling a rule makes it active in any case; and disabling one activates none, nor does it
deactivate one that is enabled. -/
theorem Rule.active_by_meaning (s : Settings) (team : Collaborators) :
    let enabled := s.rules.enabled
    let disabled := s.rules.disabled
    (∀ rule, rule ∈ active enabled disabled ↔
        (∃ e ∈ enabled, ofName? e.toList = some rule) ∨
          (¬∃ e ∈ disabled, ofName? e.toList = some rule) ∧
            rule ∉ [jiraReference, commitBody, spell]) ∧
      (Engine.ofSettings s team).activeRules = active enabled disabled ∧
      Workspace.ListsActive s (active enabled disabled) ∧
      (active enabled disabled).Pairwise (fun r r' => r.name < r'.name) ∧
      (∀ entries entries', Edit entries entries' → ∀ rule,
        rule ∈ meant entries' ↔ rule ∈ meant entries) ∧
      (∀ enabled' disabled', (∀ rule, rule ∈ meant enabled' ↔ rule ∈ meant enabled) →
        (∀ rule, rule ∈ meant disabled' ↔ rule ∈ meant disabled) →
        active enabled' disabled' = active enabled disabled) ∧
      (∀ e rule, ofName? e.toList = some rule →
        ∀ disabled', rule ∈ active (enabled ++ [e]) disabled') ∧
      ∀ e rule,
        (rule ∈ active enabled (disabled ++ [e]) → rule ∈ active enabled disabled) ∧
          (rule ∈ meant enabled → rule ∈ active enabled (disabled ++ [e])) := by
  intro enabled disabled
  refine ⟨fun rule => ?_, Engine.activeRules_ofSettings s team, Workspace.listsActive s,
    pairwise_active enabled disabled, fun _ _ => Edit.meant_iff, fun _ _ => active_congr, ?_, ?_⟩
  · rw [mem_active_iff, mem_meant, mem_meant]
  · intro e rule he disabled'
    refine mem_active_iff.mpr (.inl ?_)
    rw [mem_meant]
    exact ⟨e, List.mem_append_right _ List.mem_cons_self, he⟩
  · intro e rule
    refine ⟨fun h => ?_, fun h => mem_active_iff.mpr (.inl h)⟩
    rw [mem_active_iff] at h ⊢
    refine h.imp_right fun ⟨hdisabled, hdefault⟩ => ⟨fun hmem => hdisabled ?_, hdefault⟩
    rw [meant_append]
    exact List.mem_append_left _ hmem

/-- Entries in untidy spellings, of which two mean the same rule and one means none. -/
def untidyEntries : Settings :=
  { rules :=
      { enabled := [" \"Spell\" ", "nope", "\x60SPELL\x60"]
        disabled := ["'Signature'\t", "spell"] } }

theorem Rule.active_by_meaning_untidyEntries :
    let enabled := untidyEntries.rules.enabled
    let disabled := untidyEntries.rules.disabled
    spell ∈ active enabled disabled ∧ signature ∉ active enabled disabled ∧
      ofName? "CommitBody ".toList = some commitBody ∧
      commitBody ∈ active (enabled ++ ["CommitBody "]) ["commitbody"] ∧
      active ["spell"] disabled.reverse = active enabled disabled := by
  intro enabled disabled
  obtain ⟨hmem, -, -, -, hedit, hcongr, henable, -⟩ := Rule.active_by_meaning untidyEntries {}
  have hbody : ofName? "CommitBody ".toList = some commitBody := by decide +kernel
  have hspell : meant enabled = [spell, spell] := by decide +kernel
  refine ⟨(hmem spell).mpr (.inl ?_), mt (hmem signature).mp ?_, hbody, henable _ _ hbody _,
    hcongr _ _ (fun rule => ?_) (hedit _ _ (.reorder (List.reverse_perm disabled)))⟩
  · rw [← mem_meant, hspell]
    exact List.mem_cons_self
  · rw [← mem_meant, hspell]
    decide +kernel
  · rw [hspell, show meant ["spell"] = [spell] by decide +kernel]
    simp

end CommitLint
