import Mathlib.Data.List.Forall2

/-!
# Entries by key

What a list of entries has under a key is what its first entry of that key holds. With distinct
keys (`HasDistinctKeys`) the order of the entries does not matter
(`HasDistinctKeys.lookup_reverse`). A table whose values are decoded one by one has the decoded
values under the same keys (`lookup_of_mapM`).
-/

namespace CommitLint.Entries

variable {α β : Type} {key : String} {entries : List (String × α)}

/-! ### Looking up -/

theorem lookup_cons (name key : String) (a : α) (entries : List (String × α)) :
    ((name, a) :: entries).lookup key = if key = name then some a else entries.lookup key := by
  rw [List.lookup_cons]
  by_cases h : key = name
  · rw [if_pos h, beq_iff_eq.mpr h]
  · rw [if_neg h, beq_eq_false_iff_ne.mpr h]

theorem lookup_eq_none_iff_not_mem : entries.lookup key = none ↔ key ∉ entries.map Prod.fst := by
  rw [List.lookup_eq_none_iff, List.mem_map]
  refine ⟨fun h ⟨e, he, hkey⟩ => ?_, fun h e he => bne_iff_ne.mpr fun hkey => h ⟨e, he, hkey.symm⟩⟩
  exact bne_iff_ne.mp (h e he) hkey.symm

theorem mem_of_lookup_eq_some {a : α} (h : entries.lookup key = some a) : (key, a) ∈ entries := by
  obtain ⟨before, after, rfl, -⟩ := List.lookup_eq_some_iff.mp h
  exact List.mem_append_right _ (List.mem_cons_self ..)

/-- From the other end, what a list has under a key is what its last entry of that key holds. -/
theorem lookup_reverse_eq_some_iff {a : α} :
    entries.reverse.lookup key = some a ↔
      ∃ before after, entries = before ++ (key, a) :: after ∧ ∀ e ∈ after, e.1 ≠ key := by
  rw [List.lookup_eq_some_iff]
  constructor
  · rintro ⟨l, l', heq, hne⟩
    rw [List.reverse_eq_append_iff, List.reverse_cons, List.append_assoc,
      List.singleton_append] at heq
    exact ⟨_, _, heq, fun e he => (bne_iff_ne.mp (hne e (List.mem_reverse.mp he))).symm⟩
  · rintro ⟨before, after, rfl, hne⟩
    exact ⟨after.reverse, before.reverse, by simp,
      fun e he => bne_iff_ne.mpr (hne e (List.mem_reverse.mp he)).symm⟩

/-! ### Distinct keys -/

/-- No key stands twice. -/
def HasDistinctKeys (entries : List (String × α)) : Prop := (entries.map Prod.fst).Nodup

theorem hasDistinctKeys_nil : HasDistinctKeys ([] : List (String × α)) := .nil

theorem hasDistinctKeys_cons {e : String × α} :
    HasDistinctKeys (e :: entries) ↔ entries.lookup e.1 = none ∧ HasDistinctKeys entries := by
  rw [HasDistinctKeys, List.map_cons, List.nodup_cons, lookup_eq_none_iff_not_mem, HasDistinctKeys]

/-- Names that ascend are distinct. -/
theorem HasDistinctKeys.of_pairwise_lt (h : entries.Pairwise (·.1 < ·.1)) :
    HasDistinctKeys entries := by
  refine List.pairwise_map.mpr (h.imp fun {e e'} hlt heq => ?_)
  exact String.lt_irrefl e.1 (heq ▸ hlt)

theorem HasDistinctKeys.lookup_eq_some_of_mem (h : HasDistinctKeys entries) {a : α}
    (hmem : (key, a) ∈ entries) : entries.lookup key = some a := by
  induction entries with
  | nil => exact absurd hmem List.not_mem_nil
  | cons e entries ih =>
    obtain ⟨habsent, hdistinct⟩ := hasDistinctKeys_cons.mp h
    rw [lookup_cons]
    rcases List.mem_cons.mp hmem with rfl | hmem
    · rw [if_pos rfl]
    · rw [if_neg, ih hdistinct hmem]
      rintro rfl
      rw [ih hdistinct hmem] at habsent
      exact Option.some_ne_none a habsent

theorem HasDistinctKeys.lookup_eq_some_iff (h : HasDistinctKeys entries) {a : α} :
    entries.lookup key = some a ↔ (key, a) ∈ entries :=
  ⟨mem_of_lookup_eq_some, h.lookup_eq_some_of_mem⟩

theorem HasDistinctKeys.lookup_reverse (h : HasDistinctKeys entries) (key : String) :
    entries.reverse.lookup key = entries.lookup key := by
  have hreverse : HasDistinctKeys entries.reverse := by
    rw [HasDistinctKeys, List.map_reverse]
    exact List.pairwise_reverse.mpr (h.imp Ne.symm)
  cases hlookup : entries.lookup key with
  | some a =>
    exact hreverse.lookup_eq_some_of_mem (List.mem_reverse.mpr (mem_of_lookup_eq_some hlookup))
  | none =>
    rw [lookup_eq_none_iff_not_mem] at hlookup ⊢
    rwa [List.map_reverse, List.mem_reverse]

/-! ### Values that are turned into others -/

theorem lookup_map (f : α → β) (key : String) (entries : List (String × α)) :
    (entries.map fun (name, a) => (name, f a)).lookup key = (entries.lookup key).map f := by
  induction entries with
  | nil => rfl
  | cons e entries ih =>
    rw [List.map_cons, lookup_cons, lookup_cons, ih]
    split_ifs <;> rfl

/-- Keys may be renamed as long as they stay apart. -/
theorem lookup_map_key {f : String → String} (hf : Function.Injective f) (key : String)
    (entries : List (String × α)) :
    (entries.map fun (name, a) => (f name, a)).lookup (f key) = entries.lookup key := by
  induction entries with
  | nil => rfl
  | cons e entries ih =>
    rw [List.map_cons, lookup_cons, lookup_cons, ih]
    simp only [hf.eq_iff]

/-- What is done for all elements succeeds with what it gives for each of them. -/
theorem mapM_eq_some_iff {f : α → Option β} {l : List α} {l' : List β} :
    l.mapM f = some l' ↔ List.Forall₂ (fun a b => f a = some b) l l' := by
  induction l generalizing l' with
  | nil =>
    rw [List.mapM_nil, List.forall₂_nil_left_iff]
    exact Option.some_inj.trans eq_comm
  | cons a l ih =>
    rw [List.mapM_cons, List.forall₂_cons_left_iff]
    simp only [bind, pure, Option.bind_eq_some_iff, Option.some.injEq, ih]
    exact ⟨fun ⟨b, hb, l', hl, heq⟩ => ⟨b, l', hb, hl, heq.symm⟩,
      fun ⟨b, l', hb, hl, heq⟩ => ⟨b, hb, l', hl, heq.symm⟩⟩

/-- What is done for all elements succeeds exactly if it does for each of them. -/
theorem isSome_mapM_iff {f : α → Option β} {l : List α} :
    (l.mapM f).isSome ↔ ∀ a ∈ l, (f a).isSome := by
  induction l with
  | nil => simp
  | cons a l ih =>
    rw [List.mapM_cons, List.forall_mem_cons, ← ih]
    cases f a <;> cases l.mapM f <;> simp

section Decoding

variable {f : α → Option β} {decoded : List (String × β)}

theorem forall₂_of_mapM
    (h : entries.mapM (fun (key, a) => do some (key, ← f a)) = some decoded) :
    List.Forall₂ (fun e d => d.1 = e.1 ∧ f e.2 = some d.2) entries decoded := by
  refine (mapM_eq_some_iff.mp h).imp fun e d hd => ?_
  obtain ⟨b, hb, heq⟩ := Option.bind_eq_some_iff.mp hd
  obtain rfl := Option.some.inj heq
  exact ⟨rfl, hb⟩

theorem lookup_of_mapM
    (h : entries.mapM (fun (key, a) => do some (key, ← f a)) = some decoded) (key : String) :
    Option.Rel (fun a b => f a = some b) (entries.lookup key) (decoded.lookup key) := by
  have hall := forall₂_of_mapM h
  clear h
  induction hall with
  | nil => exact .none
  | @cons e d _ _ hhead _ ih =>
    obtain ⟨name, a⟩ := e
    obtain ⟨_, b⟩ := d
    obtain ⟨rfl, hb⟩ := hhead
    rw [lookup_cons, lookup_cons]
    split_ifs
    · exact .some hb
    · exact ih

theorem HasDistinctKeys.of_mapM (hdistinct : HasDistinctKeys entries)
    (h : entries.mapM (fun (key, a) => do some (key, ← f a)) = some decoded) :
    HasDistinctKeys decoded := by
  have hkeys : entries.map Prod.fst = decoded.map Prod.fst :=
    List.forall₂_eq_eq_eq ▸ List.forall₂_map_left_iff.mpr
      (List.forall₂_map_right_iff.mpr ((forall₂_of_mapM h).imp fun _ _ h => h.1.symm))
  exact (congrArg List.Nodup hkeys).mp hdistinct

theorem exists_mapM_of_forall_mem (h : ∀ e ∈ entries, ∃ b, f e.2 = some b) :
    ∃ decoded, entries.mapM (fun (key, a) => do some (key, ← f a)) = some decoded := by
  induction entries with
  | nil => exact ⟨[], rfl⟩
  | cons e entries ih =>
    obtain ⟨name, a⟩ := e
    obtain ⟨⟨b, hb⟩, hrest⟩ := List.forall_mem_cons.mp h
    obtain ⟨decoded, hdecoded⟩ := ih hrest
    refine ⟨(name, b) :: decoded, ?_⟩
    rw [List.mapM_cons, hdecoded]
    simp only [hb]
    rfl

end Decoding

end CommitLint.Entries
