import CommitLint.Fields
import CommitLint.Proofs.Entries

/-!
# Named texts as functions of the name

Named texts are kept in the order of their names (`IsOrdered`), which insertion keeps up
(`IsOrdered.insert`). In this order there is only one list with given texts under given names, so
named texts are equal when they give the same text for every name (`IsOrdered.ext`); and what a list
of entries comes to is said by what it gives for each name (`get?_ofList`).
-/

namespace CommitLint.Fields

open Entries

/-! ### Looking up -/

theorem lookup_eq_none_of_forall_lt {α : Type} {key : String} {entries : List (String × α)}
    (h : ∀ e ∈ entries, key < e.1) : entries.lookup key = none := by
  refine List.lookup_eq_none_iff.mpr fun e he => ?_
  rw [bne_iff_ne]
  rintro rfl
  exact String.lt_irrefl _ (h e he)

theorem lookup_insertEntry (name value key : String) (entries : List (String × String)) :
    (insertEntry name value entries).lookup key =
      if key = name then some value else entries.lookup key := by
  induction entries with
  | nil => rw [insertEntry, lookup_cons]
  | cons e entries ih =>
    obtain ⟨n, v⟩ := e
    rw [insertEntry]
    by_cases hlt : name < n
    · rw [if_pos hlt, lookup_cons]
    rw [if_neg hlt]
    by_cases heq : name = n
    · rw [if_pos heq, lookup_cons, lookup_cons, heq]
      split_ifs <;> rfl
    · rw [if_neg heq, lookup_cons, lookup_cons, ih]
      split_ifs with hn hname
      · exact absurd (hname.symm.trans hn) heq
      · rfl
      · rfl
      · rfl

@[simp]
theorem get?_insert (fields : Fields) (name value key : String) :
    (fields.insert name value).get? key = if key = name then some value else fields.get? key :=
  lookup_insertEntry name value key fields.entries

@[simp]
theorem get?_empty (key : String) : empty.get? key = none := rfl

theorem get?_foldl_insert (entries : List (String × String)) (fields : Fields) (key : String) :
    (entries.foldl (fun fields (name, value) => fields.insert name value) fields).get? key =
      (entries.reverse.lookup key).or (fields.get? key) := by
  induction entries generalizing fields with
  | nil => rfl
  | cons e entries ih =>
    obtain ⟨name, value⟩ := e
    rw [List.foldl_cons, ih, List.reverse_cons, List.lookup_append, get?_insert, lookup_cons]
    cases entries.reverse.lookup key with
    | some v => rfl
    | none => split_ifs <;> rfl

/-- Of the entries of a name the last one counts. -/
theorem get?_ofList (entries : List (String × String)) (key : String) :
    (ofList entries).get? key = entries.reverse.lookup key := by
  rw [ofList, get?_foldl_insert, get?_empty, Option.or_none]

/-! ### Order -/

/-- The names ascend, so each stands once. -/
def IsOrdered (fields : Fields) : Prop := fields.entries.Pairwise (·.1 < ·.1)

theorem isOrdered_empty : empty.IsOrdered := .nil

theorem lt_of_not_lt_of_ne {a b : String} (h : ¬a < b) (hne : a ≠ b) : b < a := by
  have hle : b ≤ a := String.not_lt.mp h
  refine String.not_le.mp fun hle' => hne (String.le_antisymm hle' hle)

theorem lt_of_mem_insertEntry {least name value : String} {entries : List (String × String)}
    (hname : least < name) (h : ∀ e ∈ entries, least < e.1) :
    ∀ e ∈ insertEntry name value entries, least < e.1 := by
  induction entries with
  | nil => simpa [insertEntry] using hname
  | cons e entries ih =>
    obtain ⟨hfirst, hrest⟩ := List.forall_mem_cons.mp h
    rw [insertEntry]
    split_ifs
    · exact List.forall_mem_cons.mpr ⟨hname, h⟩
    · exact List.forall_mem_cons.mpr ⟨hname, hrest⟩
    · exact List.forall_mem_cons.mpr ⟨hfirst, ih hrest⟩

theorem pairwise_insertEntry (name value : String) {entries : List (String × String)}
    (h : entries.Pairwise (·.1 < ·.1)) :
    (insertEntry name value entries).Pairwise (·.1 < ·.1) := by
  induction entries with
  | nil => simp [insertEntry]
  | cons e entries ih =>
    obtain ⟨hfirst, hrest⟩ := List.pairwise_cons.mp h
    rw [insertEntry]
    split_ifs with hlt heq
    · refine List.pairwise_cons.mpr ⟨List.forall_mem_cons.mpr ⟨hlt, fun e' he' => ?_⟩, h⟩
      exact String.lt_trans hlt (hfirst e' he')
    · exact List.pairwise_cons.mpr ⟨fun e' he' => heq ▸ hfirst e' he', hrest⟩
    · have hlater : e.1 < name := lt_of_not_lt_of_ne hlt heq
      exact List.pairwise_cons.mpr ⟨lt_of_mem_insertEntry hlater hfirst, ih hrest⟩

theorem IsOrdered.insert {fields : Fields} (h : fields.IsOrdered) (name value : String) :
    (fields.insert name value).IsOrdered := pairwise_insertEntry name value h

theorem IsOrdered.foldl_insert (entries : List (String × String)) {fields : Fields}
    (h : fields.IsOrdered) :
    (entries.foldl (fun fields (name, value) => fields.insert name value) fields).IsOrdered := by
  induction entries generalizing fields with
  | nil => exact h
  | cons e entries ih => exact ih (h.insert e.1 e.2)

theorem isOrdered_ofList (entries : List (String × String)) : (ofList entries).IsOrdered :=
  isOrdered_empty.foldl_insert entries

/-! ### Equality -/

theorem eq_of_lookup_eq : ∀ {entries entries' : List (String × String)},
    entries.Pairwise (·.1 < ·.1) → entries'.Pairwise (·.1 < ·.1) →
    (∀ key, entries.lookup key = entries'.lookup key) → entries = entries'
  | [], [], _, _, _ => rfl
  | [], (name, value) :: _, _, _, h => by
    have hname := h name
    rw [lookup_cons, if_pos rfl] at hname
    cases hname
  | (name, value) :: _, [], _, _, h => by
    have hname := h name
    rw [lookup_cons, if_pos rfl] at hname
    cases hname
  | (n, v) :: entries, (n', v') :: entries', hordered, hordered', h => by
    obtain ⟨hfirst, hrest⟩ := List.pairwise_cons.mp hordered
    obtain ⟨hfirst', hrest'⟩ := List.pairwise_cons.mp hordered'
    -- The lesser of the two first names would stand in one of the lists only.
    have hge : ¬n < n' := fun hlt => by
      have hn := h n
      rw [lookup_cons, if_pos rfl, lookup_eq_none_of_forall_lt] at hn
      · cases hn
      · exact List.forall_mem_cons.mpr ⟨hlt, fun e he => String.lt_trans hlt (hfirst' e he)⟩
    have hle : ¬n' < n := fun hlt => by
      have hn := h n'
      rw [lookup_cons n', if_pos rfl, lookup_eq_none_of_forall_lt] at hn
      · cases hn
      · exact List.forall_mem_cons.mpr ⟨hlt, fun e he => String.lt_trans hlt (hfirst e he)⟩
    have hname : n = n' := Classical.byContradiction fun hne => hle (lt_of_not_lt_of_ne hge hne)
    subst hname
    have hvalue := h n
    rw [lookup_cons, lookup_cons, if_pos rfl, if_pos rfl, Option.some.injEq] at hvalue
    refine List.cons_eq_cons.mpr ⟨by rw [hvalue], eq_of_lookup_eq hrest hrest' fun key => ?_⟩
    have hkey := h key
    rw [lookup_cons, lookup_cons] at hkey
    split_ifs at hkey with heq
    · rw [heq, lookup_eq_none_of_forall_lt hfirst, lookup_eq_none_of_forall_lt hfirst']
    · exact hkey

/-- Named texts in order are told by what they give for each name. -/
theorem IsOrdered.ext {fields fields' : Fields} (h : fields.IsOrdered) (h' : fields'.IsOrdered)
    (heq : ∀ key, fields.get? key = fields'.get? key) : fields = fields' :=
  congrArg Fields.mk (eq_of_lookup_eq h h' heq)

/-! ### Overriding -/

/-- The texts of both; where both have a name, those of `new`. -/
def override (base new : Fields) : Fields :=
  new.entries.foldl (fun fields (name, value) => fields.insert name value) base

theorem get?_override (base : Fields) {new : Fields} (h : new.IsOrdered) (key : String) :
    (base.override new).get? key = (new.get? key).or (base.get? key) := by
  rw [override, get?_foldl_insert, (HasDistinctKeys.of_pairwise_lt h).lookup_reverse]
  rfl

theorem IsOrdered.override {base : Fields} (h : base.IsOrdered) (new : Fields) :
    (base.override new).IsOrdered := h.foldl_insert new.entries

theorem empty_override {new : Fields} (h : new.IsOrdered) : empty.override new = new :=
  (isOrdered_empty.override new).ext h fun key => by
    rw [get?_override empty h, get?_empty, Option.or_none]

end CommitLint.Fields
