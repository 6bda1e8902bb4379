import CommitLint.Proofs.Entries
import CommitLint.Toml.Value

/-!
# Merged tables

What a merged table has under a key depends on what the two tables have there, and on nothing else
(`lookup_mergeEntries`). This needs the overlay to have each key once, for a second entry of a key
would be merged over the first; the tables of a document do (`Value.IsProper`).
-/

namespace CommitLint.Toml

open Entries

/-! ### Putting an entry -/

theorem lookup_putEntry {α : Type} (name key : String) (a : α) (entries : List (String × α)) :
    (putEntry name a entries).lookup key = if key = name then some a else entries.lookup key := by
  induction entries with
  | nil => rw [putEntry, lookup_cons]
  | cons e entries ih =>
    obtain ⟨k, b⟩ := e
    rw [putEntry]
    by_cases hk : k = name
    · rw [if_pos hk, lookup_cons, lookup_cons, hk]
      split_ifs <;> rfl
    · rw [if_neg hk, lookup_cons, lookup_cons, ih]
      by_cases hkey : key = k
      · rw [if_pos hkey, if_pos hkey, if_neg (hkey ▸ hk)]
      · rw [if_neg hkey, if_neg hkey]

theorem hasDistinctKeys_putEntry {α : Type} {entries : List (String × α)}
    (h : HasDistinctKeys entries) (name : String) (a : α) :
    HasDistinctKeys (putEntry name a entries) := by
  induction entries with
  | nil => exact hasDistinctKeys_cons.mpr ⟨rfl, hasDistinctKeys_nil⟩
  | cons e entries ih =>
    obtain ⟨k, b⟩ := e
    obtain ⟨habsent, hdistinct⟩ := hasDistinctKeys_cons.mp h
    rw [putEntry]
    split_ifs with hk
    · exact hasDistinctKeys_cons.mpr ⟨hk ▸ habsent, hdistinct⟩
    · refine hasDistinctKeys_cons.mpr ⟨?_, ih hdistinct⟩
      rw [lookup_putEntry, if_neg hk]
      exact habsent

theorem mem_putEntry {α : Type} {name : String} {a : α} {entries : List (String × α)}
    {e : String × α} (h : e ∈ putEntry name a entries) : e = (name, a) ∨ e ∈ entries := by
  induction entries with
  | nil => exact .inl (List.mem_singleton.mp h)
  | cons first entries ih =>
    obtain ⟨k, b⟩ := first
    rw [putEntry] at h
    split_ifs at h
    · exact (List.mem_cons.mp h).imp_right (List.mem_cons_of_mem _)
    · rcases List.mem_cons.mp h with rfl | h
      · exact .inr (List.mem_cons_self ..)
      · exact (ih h).imp_right (List.mem_cons_of_mem _)

theorem putEntry_of_lookup_eq_none {α : Type} {name : String} {entries : List (String × α)}
    (h : entries.lookup name = none) (a : α) :
    putEntry name a entries = entries ++ [(name, a)] := by
  induction entries with
  | nil => rfl
  | cons e entries ih =>
    obtain ⟨k, b⟩ := e
    rw [lookup_cons] at h
    split_ifs at h with hk
    rw [putEntry, if_neg (Ne.symm hk), ih h, List.cons_append]

/-! ### Merging -/

theorem merge_of_not_table {old : Value} (h : ∀ entries, old ≠ .table entries) (v : Value) :
    merge old v = v := by
  rw [merge]
  exact fun base _ hold _ => h base hold

theorem merge_of_not_table_overlay {v : Value} (h : ∀ entries, v ≠ .table entries) (old : Value) :
    merge old v = v := by
  rw [merge]
  exact fun _ overlay _ hv => h overlay hv

/-- A value over what stood in its place, if anything did. -/
def mergeOver (old? : Option Value) (v : Value) : Value :=
  match old? with
  | some old => merge old v
  | none => v

theorem mergeOver_of_not_table {v : Value} (h : ∀ entries, v ≠ .table entries)
    (old? : Option Value) : mergeOver old? v = v := by
  cases old? with
  | none => rfl
  | some old => exact merge_of_not_table_overlay h old

theorem mergeEntries_cons (base : List (String × Value)) (name : String) (v : Value)
    (rest : List (String × Value)) :
    mergeEntries base ((name, v) :: rest) =
      mergeEntries (putEntry name (mergeOver (base.lookup name) v) base) rest := by
  rw [mergeEntries]
  rfl

/-- The value under a key is that of the overlay over that of the base. -/
theorem lookup_mergeEntries {overlay : List (String × Value)} (h : HasDistinctKeys overlay)
    (base : List (String × Value)) (key : String) :
    (mergeEntries base overlay).lookup key =
      ((overlay.lookup key).map (mergeOver (base.lookup key))).or (base.lookup key) := by
  induction overlay generalizing base with
  | nil => rw [mergeEntries, List.lookup_nil, Option.map_none, Option.none_or]
  | cons e overlay ih =>
    obtain ⟨name, v⟩ := e
    obtain ⟨habsent, hdistinct⟩ := hasDistinctKeys_cons.mp h
    -- The rest of the overlay leaves this key alone, and this entry all others.
    rw [mergeEntries_cons, ih hdistinct, lookup_putEntry, lookup_cons]
    by_cases hkey : key = name
    · subst hkey
      rw [if_pos rfl, if_pos rfl, habsent, Option.map_none, Option.none_or, Option.map_some,
        Option.some_or]
    · rw [if_neg hkey, if_neg hkey]

theorem hasDistinctKeys_mergeEntries {base : List (String × Value)} (h : HasDistinctKeys base)
    (overlay : List (String × Value)) : HasDistinctKeys (mergeEntries base overlay) := by
  induction overlay generalizing base with
  | nil => rwa [mergeEntries]
  | cons e overlay ih =>
    rw [mergeEntries_cons]
    exact ih (hasDistinctKeys_putEntry h _ _)

theorem mergeEntries_eq_append {base overlay : List (String × Value)}
    (h : HasDistinctKeys (base ++ overlay)) : mergeEntries base overlay = base ++ overlay := by
  induction overlay generalizing base with
  | nil => rw [mergeEntries, List.append_nil]
  | cons e overlay ih =>
    obtain ⟨name, v⟩ := e
    have habsent : base.lookup name = none := by
      rw [HasDistinctKeys, List.map_append, List.nodup_append] at h
      rw [lookup_eq_none_iff_not_mem]
      exact fun hmem => h.2.2 name hmem name (List.mem_cons_self ..) rfl
    rw [← List.singleton_append, ← List.append_assoc] at h
    rw [mergeEntries_cons, putEntry_of_lookup_eq_none habsent, habsent, mergeOver, ih h,
      List.append_assoc, List.singleton_append]

/-- Over nothing a table stays as it is. -/
theorem mergeEntries_nil {overlay : List (String × Value)} (h : HasDistinctKeys overlay) :
    mergeEntries [] overlay = overlay := mergeEntries_eq_append h

/-! ### Proper values -/

/-- A value as documents have it: the tables in it have distinct keys, and its integers are of 64
bits. -/
inductive Value.IsProper : Value → Prop
  | text (s : String) : IsProper (.text s)
  | integer {n : Int} (hlow : -0x8000000000000000 ≤ n) (hhigh : n < 0x8000000000000000) :
    IsProper (.integer n)
  | float (digits : String) : IsProper (.float digits)
  | boolean (b : Bool) : IsProper (.boolean b)
  | dateTime (s : String) : IsProper (.dateTime s)
  | array {items : List Value} (hitems : ∀ v ∈ items, IsProper v) : IsProper (.array items)
  | table {entries : List (String × Value)} (hkeys : HasDistinctKeys entries)
    (hvalues : ∀ e ∈ entries, IsProper e.2) : IsProper (.table entries)

theorem Value.isProper_table_iff {entries : List (String × Value)} :
    (Value.table entries).IsProper ↔ HasDistinctKeys entries ∧ ∀ e ∈ entries, e.2.IsProper :=
  ⟨fun | .table hkeys hvalues => ⟨hkeys, hvalues⟩, fun ⟨hkeys, hvalues⟩ => .table hkeys hvalues⟩

theorem Value.IsProper.of_lookup {entries : List (String × Value)}
    (h : (Value.table entries).IsProper) {key : String} {v : Value}
    (hlookup : entries.lookup key = some v) : v.IsProper :=
  (isProper_table_iff.mp h).2 _ (mem_of_lookup_eq_some hlookup)

end CommitLint.Toml
