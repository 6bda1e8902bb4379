import CommitLint.Proofs.Toml.Merge

/-!
# Paths through merged tables

What stands at a path of keys when one table is merged over another depends on what the two have at
this path, and on whether the overlay has a value above it that is no table (`MergedAt`). One more
key at the front of a path leads from two tables to what they have under this key
(`lookup_mergeEntries`), so the law goes by induction on the path (`mergedAt_at?_merge`).

An overlay that is in the base already changes nothing (`mergeEntries_eq_self`). Hence a table may
be merged over itself, and an overlay twice (`merge_self`, `merge_merge`).
-/

namespace CommitLint.Toml

open Entries

/-! ### Values at paths -/

/-- A value that nothing can be below. -/
def Value.IsLeaf (v : Value) : Prop := ∀ entries, v ≠ .table entries

theorem Value.isLeaf_or_exists_table (v : Value) : v.IsLeaf ∨ ∃ entries, v = .table entries := by
  by_cases h : ∃ entries, v = .table entries
  · exact .inr h
  · exact .inl fun entries heq => h ⟨entries, heq⟩

theorem Value.at?_nil (v : Value) : v.at? [] = some v := by rw [at?]

theorem Value.at?_table_cons (entries : List (String × Value)) (key : String)
    (path : List String) :
    (Value.table entries).at? (key :: path) = (entries.lookup key).bind (·.at? path) := by
  rw [at?]

theorem Value.IsLeaf.at?_cons {v : Value} (h : v.IsLeaf) (key : String) (path : List String) :
    v.at? (key :: path) = none := by
  rw [at?]
  exact fun entries heq => h entries heq

/-- Above a path, at a proper beginning of it, stands a leaf, so nothing can be at the path. -/
def Value.Blocks (v : Value) (path : List String) : Prop :=
  ∃ start key rest leaf, path = start ++ key :: rest ∧ v.at? start = some leaf ∧ leaf.IsLeaf

theorem Value.IsLeaf.blocks_cons {v : Value} (h : v.IsLeaf) (key : String) (path : List String) :
    v.Blocks (key :: path) :=
  ⟨[], key, path, v, rfl, v.at?_nil, h⟩

theorem Value.blocks_table_cons_iff {entries : List (String × Value)} {key : String}
    {path : List String} :
    (Value.table entries).Blocks (key :: path) ↔
      ∃ v, entries.lookup key = some v ∧ v.Blocks path := by
  constructor
  · rintro ⟨start, last, rest, leaf, hpath, hleaf, hisLeaf⟩
    cases start with
    | nil =>
      rw [at?_nil] at hleaf
      exact absurd (Option.some.inj hleaf).symm (hisLeaf entries)
    | cons first start =>
      obtain ⟨rfl, rfl⟩ := List.cons.inj hpath
      rw [at?_table_cons] at hleaf
      obtain ⟨v, hv, hbelow⟩ := Option.bind_eq_some_iff.mp hleaf
      exact ⟨v, hv, start, last, rest, leaf, rfl, hbelow, hisLeaf⟩
  · rintro ⟨v, hv, start, last, rest, leaf, rfl, hbelow, hisLeaf⟩
    refine ⟨key :: start, last, rest, leaf, rfl, ?_, hisLeaf⟩
    rw [at?_table_cons, hv, Option.bind_some, hbelow]

/-! ### What a merged value has at a path -/

/-- What is at a path when `overlay` is merged over `base`. -/
inductive MergedAt (base overlay : Value) (path : List String) : Option Value → Prop
  /-- Both have a table there, and these are merged. -/
  | tables {old new : List (String × Value)} (hbase : base.at? path = some (.table old))
    (hoverlay : overlay.at? path = some (.table new)) :
    MergedAt base overlay path (some (merge (.table old) (.table new)))
  /-- The overlay has something there, and not both have a table. -/
  | overlay {v : Value} (hoverlay : overlay.at? path = some v)
    (hnot : ∀ old new, base.at? path = some (.table old) → v ≠ .table new) :
    MergedAt base overlay path (some v)
  /-- The overlay has nothing there, and a leaf above. -/
  | blocked (hoverlay : overlay.at? path = none) (hblocks : overlay.Blocks path) :
    MergedAt base overlay path none
  /-- The overlay says nothing on this path. -/
  | base (hoverlay : overlay.at? path = none) (hfree : ¬overlay.Blocks path) :
    MergedAt base overlay path (base.at? path)

/-- This is a function of the two values and the path. -/
theorem MergedAt.unique {base overlay : Value} {path : List String} {r r' : Option Value}
    (h : MergedAt base overlay path r) (h' : MergedAt base overlay path r') : r = r' := by
  cases h <;> cases h' <;> grind

/-- Where the base has nothing, everything is that of the overlay. -/
theorem mergedAt_of_absent {base overlay : Value} {path : List String}
    (h : base.at? path = none) : MergedAt base overlay path (overlay.at? path) := by
  cases hoverlay : overlay.at? path with
  | some v => exact .overlay hoverlay fun old _ hbase => by cases h.symm.trans hbase
  | none =>
    by_cases hblocks : overlay.Blocks path
    · exact .blocked hoverlay hblocks
    · exact h ▸ MergedAt.base hoverlay hblocks

/-- Below a key that two tables have in common, their values decide. -/
theorem MergedAt.cons {base overlay : List (String × Value)} {key : String} {old new : Value}
    {path : List String} {r : Option Value} (hold : base.lookup key = some old)
    (hnew : overlay.lookup key = some new) (h : MergedAt old new path r) :
    MergedAt (.table base) (.table overlay) (key :: path) r := by
  have hbase : (Value.table base).at? (key :: path) = old.at? path := by
    rw [Value.at?_table_cons, hold, Option.bind_some]
  have hoverlay : (Value.table overlay).at? (key :: path) = new.at? path := by
    rw [Value.at?_table_cons, hnew, Option.bind_some]
  have hblocks : (Value.table overlay).Blocks (key :: path) ↔ new.Blocks path := by
    simp only [Value.blocks_table_cons_iff, hnew, Option.some.injEq, exists_eq_left']
  cases h with
  | tables h h' => exact .tables (hbase.trans h) (hoverlay.trans h')
  | overlay h hnot => exact .overlay (hoverlay.trans h) (hbase ▸ hnot)
  | blocked h h' => exact .blocked (hoverlay.trans h) (hblocks.mpr h')
  | base h hfree => exact hbase ▸ .base (hoverlay.trans h) (mt hblocks.mp hfree)

theorem mergedAt_at?_merge {overlay : Value} (h : overlay.IsProper) (base : Value)
    (path : List String) : MergedAt base overlay path ((merge base overlay).at? path) := by
  induction path generalizing base overlay with
  | nil =>
    rcases base.isLeaf_or_exists_table with hleaf | ⟨old, rfl⟩
    · rw [merge_of_not_table hleaf, Value.at?_nil]
      refine .overlay overlay.at?_nil fun old _ hold => absurd ?_ (hleaf old)
      exact Option.some.inj (base.at?_nil ▸ hold)
    rcases overlay.isLeaf_or_exists_table with hleaf | ⟨new, rfl⟩
    · rw [merge_of_not_table_overlay hleaf, Value.at?_nil]
      exact .overlay overlay.at?_nil fun _ new _ => hleaf new
    · exact .tables (Value.at?_nil _) (Value.at?_nil _)
  | cons key path ih =>
    rcases overlay.isLeaf_or_exists_table with hleaf | ⟨new, rfl⟩
    · rw [merge_of_not_table_overlay hleaf, hleaf.at?_cons]
      exact .blocked (hleaf.at?_cons key path) (hleaf.blocks_cons key path)
    rcases base.isLeaf_or_exists_table with hleaf | ⟨old, rfl⟩
    · rw [merge_of_not_table hleaf]
      exact mergedAt_of_absent (hleaf.at?_cons key path)
    rw [merge, Value.at?_table_cons, lookup_mergeEntries (Value.isProper_table_iff.mp h).1]
    cases hnew : new.lookup key with
    | none =>
      -- The overlay does not have the key, so it says nothing on the path.
      have habsent : (Value.table new).at? (key :: path) = none := by
        rw [Value.at?_table_cons, hnew, Option.bind_none]
      rw [Option.map_none, Option.none_or, ← Value.at?_table_cons]
      refine .base habsent fun hblocks => ?_
      obtain ⟨_, hsome, -⟩ := Value.blocks_table_cons_iff.mp hblocks
      cases hnew.symm.trans hsome
    | some v =>
      rw [Option.map_some, Option.some_or, Option.bind_some]
      cases hold : old.lookup key with
      | none =>
        have hoverlay : (Value.table new).at? (key :: path) = v.at? path := by
          rw [Value.at?_table_cons, hnew, Option.bind_some]
        rw [mergeOver, ← hoverlay]
        refine mergedAt_of_absent ?_
        rw [Value.at?_table_cons, hold, Option.bind_none]
      | some w => exact (ih (h.of_lookup hnew) w).cons hold hnew

theorem at?_merge_eq_iff {overlay : Value} (h : overlay.IsProper) {base : Value}
    {path : List String} {r : Option Value} :
    (merge base overlay).at? path = r ↔ MergedAt base overlay path r :=
  ⟨fun heq => heq ▸ mergedAt_at?_merge h base path, (mergedAt_at?_merge h base path).unique⟩

/-! ### Keys kept and lost -/

section Keys

variable {base overlay : Value} {path : List String} {r : Option Value}

theorem MergedAt.ne_none (h : MergedAt base overlay path r) (hoverlay : overlay.at? path ≠ none) :
    r ≠ none := by
  cases h with
  | tables => exact Option.some_ne_none _
  | overlay => exact Option.some_ne_none _
  | blocked h => exact absurd h hoverlay
  | base h => exact absurd h hoverlay

theorem MergedAt.blocks_of_none (h : MergedAt base overlay path none)
    (hbase : base.at? path ≠ none) : overlay.Blocks path := by
  by_contra hfree
  have hoverlay : overlay.at? path = none := by_contra fun hne => h.ne_none hne rfl
  exact hbase ((MergedAt.base hoverlay hfree).unique h)

theorem MergedAt.ne_none_or (h : MergedAt base overlay path r) (hr : r ≠ none) :
    base.at? path ≠ none ∨ overlay.at? path ≠ none := by
  cases h with
  | tables hbase => exact .inl (hbase ▸ Option.some_ne_none _)
  | overlay hoverlay => exact .inr (hoverlay ▸ Option.some_ne_none _)
  | blocked => exact absurd rfl hr
  | base => exact .inl hr

end Keys

/-! ### Merging what is there already -/

theorem putEntry_eq_self {α : Type} {key : String} {a : α} {entries : List (String × α)}
    (h : entries.lookup key = some a) : putEntry key a entries = entries := by
  induction entries with
  | nil => cases h
  | cons e entries ih =>
    obtain ⟨name, b⟩ := e
    rw [lookup_cons] at h
    rw [putEntry]
    by_cases hkey : key = name
    · rw [if_pos hkey] at h
      rw [if_pos hkey.symm, hkey, Option.some.inj h]
    · rw [if_neg hkey] at h
      rw [if_neg (Ne.symm hkey), ih h]

/-- An overlay of which every entry is in the base changes nothing. -/
theorem mergeEntries_eq_self {base overlay : List (String × Value)}
    (h : ∀ e ∈ overlay, ∃ v, base.lookup e.1 = some v ∧ merge v e.2 = v) :
    mergeEntries base overlay = base := by
  induction overlay with
  | nil => rw [mergeEntries]
  | cons e overlay ih =>
    obtain ⟨⟨v, hlookup, hmerge⟩, hrest⟩ := List.forall_mem_cons.mp h
    rw [mergeEntries_cons, hlookup, mergeOver, hmerge, putEntry_eq_self hlookup, ih hrest]

theorem merge_self {v : Value} (h : v.IsProper) : merge v v = v := by
  induction h with
  | table hkeys _ ih =>
    rw [merge, mergeEntries_eq_self]
    exact fun e he => ⟨e.2, hkeys.lookup_eq_some_of_mem he, ih e he⟩
  | _ => exact merge_of_not_table_overlay (by simp) _

/-- An overlay changes nothing the second time. -/
theorem merge_merge {overlay : Value} (h : overlay.IsProper) (base : Value) :
    merge (merge base overlay) overlay = merge base overlay := by
  induction h generalizing base with
  | table hkeys hvalues ih =>
    rcases base.isLeaf_or_exists_table with hleaf | ⟨old, rfl⟩
    · rw [merge_of_not_table hleaf, merge_self (.table hkeys hvalues)]
    rw [merge, merge, mergeEntries_eq_self]
    intro e he
    rw [lookup_mergeEntries hkeys, hkeys.lookup_eq_some_of_mem he, Option.map_some,
      Option.some_or]
    refine ⟨_, rfl, ?_⟩
    cases old.lookup e.1 with
    | none => exact merge_self (hvalues e he)
    | some v => exact ih e he v
  | _ => rw [merge_of_not_table_overlay (by simp), merge_of_not_table_overlay (by simp)]

theorem Value.IsProper.merge {base overlay : Value} (hbase : base.IsProper)
    (hoverlay : overlay.IsProper) : (merge base overlay).IsProper := by
  induction hoverlay generalizing base with
  | @table new hkeys hvalues ih =>
    rcases base.isLeaf_or_exists_table with hleaf | ⟨old, rfl⟩
    · rw [merge_of_not_table hleaf]
      exact .table hkeys hvalues
    have hdistinct := hasDistinctKeys_mergeEntries (isProper_table_iff.mp hbase).1 new
    rw [Toml.merge]
    refine .table hdistinct fun e he => ?_
    have hlookup := hdistinct.lookup_eq_some_of_mem he
    rw [lookup_mergeEntries hkeys, Option.or_eq_some_iff, Option.map_eq_some_iff] at hlookup
    rcases hlookup with ⟨v, hv, hmerged⟩ | ⟨-, hold⟩
    · rw [← hmerged]
      have hmem := mem_of_lookup_eq_some hv
      cases hold : old.lookup e.1 with
      | none => exact hvalues _ hmem
      | some w => exact ih _ hmem (hbase.of_lookup hold)
    · exact hbase.of_lookup hold
  | _ => rw [merge_of_not_table_overlay (by simp)]; constructor <;> assumption

/-! ### The laws of merging -/

section Laws

variable {base overlay : List (String × Value)}

/-- Merging tables, path by path: no key of the overlay is lost, one of the base only below a leaf
of the overlay, and none is added that neither has. A table changes nothing over itself, nor does
the empty table above or below another one, nor an overlay the second time. -/
theorem merge_exact (hbase : (Value.table base).IsProper)
    (hoverlay : (Value.table overlay).IsProper) :
    (merge (.table base) (.table overlay)).IsProper ∧
    (∀ path r, (merge (.table base) (.table overlay)).at? path = r ↔
      MergedAt (.table base) (.table overlay) path r) ∧
    (∀ path, (Value.table overlay).at? path ≠ none →
      (merge (.table base) (.table overlay)).at? path ≠ none) ∧
    (∀ path, (Value.table base).at? path ≠ none →
      (merge (.table base) (.table overlay)).at? path = none →
        (Value.table overlay).Blocks path) ∧
    (∀ path, (merge (.table base) (.table overlay)).at? path ≠ none →
      (Value.table base).at? path ≠ none ∨ (Value.table overlay).at? path ≠ none) ∧
    merge (.table base) (.table base) = .table base ∧
    merge (.table []) (.table base) = .table base ∧
    merge (.table base) (.table []) = .table base ∧
    merge (merge (.table base) (.table overlay)) (.table overlay) =
      merge (.table base) (.table overlay) := by
  have hat := mergedAt_at?_merge hoverlay (.table base)
  refine ⟨hbase.merge hoverlay, fun path r => at?_merge_eq_iff hoverlay,
    fun path => (hat path).ne_none, fun path hold hnone => ?_, fun path => (hat path).ne_none_or,
    merge_self hbase, ?_, ?_, merge_merge hoverlay _⟩
  · exact (hnone ▸ hat path).blocks_of_none hold
  · rw [merge, mergeEntries_nil (Value.isProper_table_iff.mp hbase).1]
  · rw [merge, mergeEntries]

end Laws

/-- A table over a table, a table over a leaf, and a leaf over a table. -/
theorem merge_exact_conflicting :
    let base : List (String × Value) :=
      [("subject", .table [("case", .text "lower"), ("max_length", .integer 50)]),
        ("spell", .boolean true), ("jira", .table [("projects", .array [])])]
    let overlay : List (String × Value) :=
      [("subject", .table [("case", .text "upper")]), ("spell", .table [("locale", .text "UK")]),
        ("jira", .integer 3)]
    let merged := merge (.table base) (.table overlay)
    merged.at? ["subject", "max_length"] = some (.integer 50) ∧
      merged.at? ["spell", "locale"] = some (.text "UK") ∧
      merged.at? ["jira", "projects"] = none ∧ merge merged (.table overlay) = merged := by
  intro base overlay merged
  have hbase : (Value.table base).IsProper := by
    simp [base, Value.isProper_table_iff, HasDistinctKeys, Value.IsProper.text,
      Value.IsProper.integer, Value.IsProper.boolean, Value.IsProper.array]
  have hoverlay : (Value.table overlay).IsProper := by
    simp [overlay, Value.isProper_table_iff, HasDistinctKeys, Value.IsProper.text,
      Value.IsProper.integer]
  obtain ⟨-, hat, -, -, -, -, -, -, htwice⟩ := merge_exact hbase hoverlay
  have hfree : ¬(Value.table overlay).Blocks ["subject", "max_length"] := by
    simp [overlay, Value.blocks_table_cons_iff, lookup_cons]
  have hblocks : (Value.table overlay).Blocks ["jira", "projects"] :=
    ⟨["jira"], "projects", [], .integer 3, rfl, by
      simp [overlay, Value.at?, lookup_cons], fun entries heq => by cases heq⟩
  refine ⟨(hat _ _).mpr ?_, (hat _ _).mpr ?_, (hat _ _).mpr ?_, htwice⟩
  · have hold : (Value.table base).at? ["subject", "max_length"] = some (.integer 50) := by
      simp [base, Value.at?, lookup_cons]
    exact hold ▸ .base (by simp [overlay, Value.at?, lookup_cons]) hfree
  · exact .overlay (by simp [overlay, Value.at?, lookup_cons]) fun _ _ _ heq => by cases heq
  · exact .blocked (by simp [overlay, Value.at?, lookup_cons]) hblocks

end CommitLint.Toml
