import CommitLint.Proofs.Fields
import CommitLint.Proofs.Toml.Merge
import CommitLint.Settings.Encode

/-!
# Kinds of fields

A field of the settings is a number, a truth value, a text, a list of texts, a choice or a
collection of words. A kind of field (`Kind`) tells what its values mean, how they are read and
written, and what becomes of a value that is laid over another one (`Kind.lay`): words come
together by name, and of everything else only the new value counts.

That reading a merged value comes to the same as laying one reading over the other is the law
`Kind.decode?_merge`. It asks of the old value to be plain, because a choice may also be written as
a table with one key, and two such tables would be merged.
-/

namespace CommitLint.Settings

open Toml (Value merge mergeEntries mergeOver)
open Entries

/-- A kind of field, with values as they are after layering. -/
structure Kind where
  /-- What is read. -/
  Carrier : Type
  decode? : Value → Option Carrier
  write? : Carrier → Option Value
  /-- The value means this. -/
  Means : Value → Carrier → Prop
  /-- The value is written in the usual form. -/
  IsPlain : Value → Prop
  /-- What is read is in order. -/
  IsOrdered : Carrier → Prop
  /-- What holds after the second has been laid over the first. -/
  lay : Carrier → Carrier → Carrier
  decode?_eq_some_iff {v : Value} {a : Carrier} (hv : v.IsProper) : decode? v = some a ↔ Means v a
  isOrdered_of_means {v : Value} {a : Carrier} (h : Means v a) : IsOrdered a
  exists_write? {v : Value} {a : Carrier} (hv : v.IsProper) (h : Means v a) :
    ∃ w, write? a = some w
  isProper_of_write? {a : Carrier} {w : Value} (ha : IsOrdered a) (h : write? a = some w) :
    w.IsProper
  isPlain_of_write? {a : Carrier} {w : Value} (h : write? a = some w) : IsPlain w
  means_of_write? {a : Carrier} {w : Value} (ha : IsOrdered a) (h : write? a = some w) : Means w a
  decode?_merge {old v : Value} {a c : Carrier} (hold : old.IsProper) (hplain : IsPlain old)
    (hmeans : Means old a) (hv : v.IsProper) :
    decode? (merge old v) = some c ↔ ∃ b, Means v b ∧ c = lay a b

namespace Kind

/-- Over a value that is no table, only the new one counts. -/
theorem decode?_merge_of_not_table {α : Type} {decode? : Value → Option α}
    {Means : Value → α → Prop} {old v : Value} {c : α} (hdecode : decode? v = some c ↔ Means v c)
    (hold : ∀ entries, old ≠ .table entries) :
    decode? (merge old v) = some c ↔ ∃ b, Means v b ∧ c = b := by
  rw [Toml.merge_of_not_table hold, hdecode]
  exact ⟨fun h => ⟨c, h, rfl⟩, fun ⟨_, h, heq⟩ => heq ▸ h⟩

/-! ### Numbers and truth values -/

/-- A value that means a number. -/
def MeansCount (v : Value) (n : Nat) : Prop := v = .integer n

theorem naturalOf?_eq_some_iff {v : Value} {n : Nat} : naturalOf? v = some n ↔ MeansCount v n := by
  constructor
  · intro h
    rw [naturalOf?.eq_def] at h
    split at h
    · split_ifs at h with hn
      rw [← Option.some.inj h, MeansCount, Int.toNat_of_nonneg hn]
    · cases h
  · rintro rfl
    rfl

theorem naturalValue?_eq_some_iff {n : Nat} {v : Value} :
    naturalValue? n = some v ↔ n < 0x8000000000000000 ∧ v = .integer n := by
  rw [naturalValue?]
  by_cases hn : n < 0x8000000000000000
  · rw [if_pos hn, Option.some.injEq, eq_comm, and_iff_right hn]
  · rw [if_neg hn]
    exact iff_of_false (Option.some_ne_none v).symm fun h => hn h.1

/-- Numbers, up to the largest integer of 64 bits with a sign. -/
@[reducible]
def count : Kind where
  Carrier := Nat
  decode? := naturalOf?
  write? := naturalValue?
  Means := MeansCount
  IsPlain _ := True
  IsOrdered _ := True
  lay _ n := n
  decode?_eq_some_iff _ := naturalOf?_eq_some_iff
  isOrdered_of_means _ := trivial
  exists_write? hv h := by
    subst h
    obtain _ | ⟨-, hhigh⟩ := hv
    exact ⟨_, naturalValue?_eq_some_iff.mpr ⟨by omega, rfl⟩⟩
  isProper_of_write? _ h := by
    obtain ⟨hn, rfl⟩ := naturalValue?_eq_some_iff.mp h
    exact .integer (by omega) (by omega)
  isPlain_of_write? _ := trivial
  means_of_write? _ h := (naturalValue?_eq_some_iff.mp h).2
  decode?_merge _ _ hmeans _ := by
    subst hmeans
    refine decode?_merge_of_not_table naturalOf?_eq_some_iff fun _ heq => ?_
    cases heq

/-- A value that means a truth value. -/
def MeansTruth (v : Value) (b : Bool) : Prop := v = .boolean b

theorem booleanOf?_eq_some_iff {v : Value} {b : Bool} : booleanOf? v = some b ↔ MeansTruth v b := by
  constructor
  · intro h
    rw [booleanOf?.eq_def] at h
    split at h
    · exact congrArg Value.boolean (Option.some.inj h)
    · cases h
  · rintro rfl
    rfl

/-- Truth values. -/
@[reducible]
def truth : Kind where
  Carrier := Bool
  decode? := booleanOf?
  write? b := some (.boolean b)
  Means := MeansTruth
  IsPlain _ := True
  IsOrdered _ := True
  lay _ b := b
  decode?_eq_some_iff _ := booleanOf?_eq_some_iff
  isOrdered_of_means _ := trivial
  exists_write? _ _ := ⟨_, rfl⟩
  isProper_of_write? _ h := Option.some.inj h ▸ .boolean _
  isPlain_of_write? _ := trivial
  means_of_write? _ h := (Option.some.inj h).symm
  decode?_merge _ _ hmeans _ := by
    subst hmeans
    refine decode?_merge_of_not_table booleanOf?_eq_some_iff fun _ heq => ?_
    cases heq

/-! ### Texts -/

/-- A value that means a text. A date means the text that it is written with. -/
def MeansText (v : Value) (s : String) : Prop := v = .text s ∨ v = .dateTime s

theorem textOf?_eq_some_iff {v : Value} {s : String} :
    textOf? .layered v = some s ↔ MeansText v s := by
  cases v <;> simp [textOf?, seen, MeansText]

theorem MeansText.ne_table {v : Value} {s : String} (h : MeansText v s)
    (entries : List (String × Value)) : v ≠ .table entries := by
  rcases h with rfl | rfl <;> exact Value.noConfusion

/-- Texts. -/
@[reducible]
def text : Kind where
  Carrier := String
  decode? := textOf? .layered
  write? s := some (.text s)
  Means := MeansText
  IsPlain _ := True
  IsOrdered _ := True
  lay _ s := s
  decode?_eq_some_iff _ := textOf?_eq_some_iff
  isOrdered_of_means _ := trivial
  exists_write? _ _ := ⟨_, rfl⟩
  isProper_of_write? _ h := Option.some.inj h ▸ .text _
  isPlain_of_write? _ := trivial
  means_of_write? _ h := .inl (Option.some.inj h).symm
  decode?_merge _ _ hmeans _ := decode?_merge_of_not_table textOf?_eq_some_iff hmeans.ne_table

/-- A value that means a list of texts. -/
def MeansTexts (v : Value) (l : List String) : Prop :=
  ∃ items, v = .array items ∧ List.Forall₂ MeansText items l

theorem textsOf?_eq_some_iff {v : Value} {l : List String} :
    textsOf? .layered v = some l ↔ MeansTexts v l := by
  cases v <;> simp [textsOf?, MeansTexts, mapM_eq_some_iff, textOf?_eq_some_iff]

theorem means_textsValue (l : List String) : MeansTexts (textsValue l) l := by
  refine ⟨_, rfl, ?_⟩
  rw [List.forall₂_map_left_iff]
  exact List.forall₂_same.mpr fun _ _ => .inl rfl

/-- Lists of texts. -/
@[reducible]
def texts : Kind where
  Carrier := List String
  decode? := textsOf? .layered
  write? l := some (textsValue l)
  Means := MeansTexts
  IsPlain _ := True
  IsOrdered _ := True
  lay _ l := l
  decode?_eq_some_iff _ := textsOf?_eq_some_iff
  isOrdered_of_means _ := trivial
  exists_write? _ _ := ⟨_, rfl⟩
  isProper_of_write? _ h := by
    obtain rfl := Option.some.inj h
    refine .array fun v hv => ?_
    obtain ⟨s, -, rfl⟩ := List.mem_map.mp hv
    exact .text s
  isPlain_of_write? _ := trivial
  means_of_write? _ h := Option.some.inj h ▸ means_textsValue _
  decode?_merge _ _ hmeans _ := by
    obtain ⟨items, rfl, -⟩ := hmeans
    refine decode?_merge_of_not_table textsOf?_eq_some_iff fun _ heq => ?_
    cases heq

/-! ### Choices -/

section Choice

variable {α : Type} {choices : List (String × α)}

/-- A value that means a choice: its name, or a table with its name as the only key and nothing
under it. -/
def MeansChoice (choices : List (String × α)) (v : Value) (a : α) : Prop :=
  ∃ name, choices.lookup name = some a ∧
    (v = .text name ∨ ∃ w, isHollow w = true ∧ v = .table [(name, w)])

theorem choiceOf?_eq_some_iff {v : Value} {a : α} :
    choiceOf? choices v = some a ↔ MeansChoice choices v a := by
  constructor
  · intro h
    rw [choiceOf?.eq_def] at h
    split at h
    · exact ⟨_, h, .inl rfl⟩
    · split_ifs at h with hhollow
      exact ⟨_, h, .inr ⟨_, hhollow, rfl⟩⟩
    · cases h
  · rintro ⟨name, hname, rfl | ⟨w, hhollow, rfl⟩⟩
    · exact hname
    · rw [choiceOf?, if_pos hhollow]
      exact hname

/-- One of some choices, each of which has a name. -/
@[reducible]
def choice [BEq α] (choices : List (String × α))
    (hnames : ∀ a, MeansChoice choices (choiceValue choices a) a) : Kind where
  Carrier := α
  decode? := choiceOf? choices
  write? a := some (choiceValue choices a)
  Means := MeansChoice choices
  IsPlain v := ∃ name, v = .text name
  IsOrdered _ := True
  lay _ a := a
  decode?_eq_some_iff _ := choiceOf?_eq_some_iff
  isOrdered_of_means _ := trivial
  exists_write? _ _ := ⟨_, rfl⟩
  isProper_of_write? _ h := Option.some.inj h ▸ .text _
  isPlain_of_write? h := ⟨_, (Option.some.inj h).symm⟩
  means_of_write? _ h := Option.some.inj h ▸ hnames _
  decode?_merge _ hplain _ _ := by
    obtain ⟨name, rfl⟩ := hplain
    refine decode?_merge_of_not_table choiceOf?_eq_some_iff fun _ heq => ?_
    cases heq

end Choice

/-- The case of a first letter. -/
@[reducible]
def letterCase : Kind :=
  choice letterCases fun a => choiceOf?_eq_some_iff.mp (by cases a <;> rfl)

/-- A spelling of English. -/
@[reducible]
def locale : Kind := choice locales fun a => choiceOf?_eq_some_iff.mp (by cases a <;> rfl)

/-- A form of reports. -/
@[reducible]
def reportFormat : Kind :=
  choice reportFormats fun a => choiceOf?_eq_some_iff.mp (by cases a <;> rfl)

/-! ### Words -/

/-- A value that means texts by name. -/
def MeansWords (v : Value) (words : Fields) : Prop :=
  words.IsOrdered ∧
    ∃ entries, v = .table entries ∧
      ∀ key, Option.Rel MeansText (entries.lookup key) (words.get? key)

theorem exists_of_rel_some {α β : Type} {r : α → β → Prop} {a : α} {b? : Option β}
    (h : Option.Rel r (some a) b?) : ∃ b, b? = some b ∧ r a b := by
  cases h with
  | some h => exact ⟨_, rfl, h⟩

theorem rel_or {α β : Type} {r : α → β → Prop} {a? a'? : Option α} {b? b'? : Option β}
    (h : Option.Rel r a? b?) (h' : Option.Rel r a'? b'?) :
    Option.Rel r (a?.or a'?) (b?.or b'?) := by
  cases h with
  | none => exact h'
  | some h => exact .some h

section Words

variable {entries : List (String × Value)} {words : Fields}

theorem meansWords_table_iff :
    MeansWords (.table entries) words ↔
      words.IsOrdered ∧ ∀ key, Option.Rel MeansText (entries.lookup key) (words.get? key) :=
  ⟨fun ⟨hordered, _, heq, h⟩ => ⟨hordered, Value.table.inj heq ▸ h⟩,
    fun ⟨hordered, h⟩ => ⟨hordered, entries, rfl, h⟩⟩

theorem eq_of_rel_meansText {v? : Option Value} {s? s'? : Option String}
    (h : Option.Rel MeansText v? s?) (h' : Option.Rel MeansText v? s'?) : s? = s'? := by
  cases h with
  | none =>
    cases h'
    rfl
  | some h =>
    obtain ⟨s', rfl, hs'⟩ := exists_of_rel_some h'
    exact (textOf?_eq_some_iff.mpr h).symm.trans (textOf?_eq_some_iff.mpr hs')

/-- A table means at most one collection of words. -/
theorem MeansWords.unique {words' : Fields} (h : MeansWords (.table entries) words)
    (h' : MeansWords (.table entries) words') : words = words' := by
  obtain ⟨hordered, hrel⟩ := meansWords_table_iff.mp h
  obtain ⟨hordered', hrel'⟩ := meansWords_table_iff.mp h'
  exact hordered.ext hordered' fun key => eq_of_rel_meansText (hrel key) (hrel' key)

theorem MeansWords.exists_meansText (h : MeansWords (.table entries) words) (key : String)
    (v : Value) (hlookup : entries.lookup key = some v) : ∃ s, MeansText v s := by
  have hrel := (meansWords_table_iff.mp h).2 key
  rw [hlookup] at hrel
  obtain ⟨s, -, hs⟩ := exists_of_rel_some hrel
  exact ⟨s, hs⟩

theorem meansWords_of_fieldsOf? (hkeys : HasDistinctKeys entries)
    (h : fieldsOf? .layered (.table entries) = some words) : MeansWords (.table entries) words := by
  obtain ⟨decoded, hdecoded, heq⟩ := Option.bind_eq_some_iff.mp h
  obtain rfl := Option.some.inj heq
  refine meansWords_table_iff.mpr ⟨Fields.isOrdered_ofList decoded, fun key => ?_⟩
  have hrel := lookup_of_mapM hdecoded key
  simp only [textOf?_eq_some_iff] at hrel
  rwa [Fields.get?_ofList, (hkeys.of_mapM hdecoded).lookup_reverse]

/-- A table in which every value means a text is read as words. -/
theorem exists_fieldsOf? (hkeys : HasDistinctKeys entries)
    (h : ∀ key v, entries.lookup key = some v → ∃ s, MeansText v s) :
    ∃ words, fieldsOf? .layered (.table entries) = some words := by
  have hall : ∀ e ∈ entries, ∃ s, textOf? .layered e.2 = some s := fun e he => by
    obtain ⟨s, hs⟩ := h e.1 e.2 (hkeys.lookup_eq_some_of_mem he)
    exact ⟨s, textOf?_eq_some_iff.mpr hs⟩
  obtain ⟨decoded, hdecoded⟩ := exists_mapM_of_forall_mem hall
  exact ⟨_, Option.bind_eq_some_iff.mpr ⟨decoded, hdecoded, rfl⟩⟩

theorem fieldsOf?_table_eq_some_iff (hkeys : HasDistinctKeys entries) :
    fieldsOf? .layered (.table entries) = some words ↔ MeansWords (.table entries) words := by
  refine ⟨meansWords_of_fieldsOf? hkeys, fun h => ?_⟩
  obtain ⟨words', hwords'⟩ := exists_fieldsOf? hkeys h.exists_meansText
  rw [hwords', (meansWords_of_fieldsOf? hkeys hwords').unique h]

theorem fieldsOf?_eq_some_iff {v : Value} (hv : v.IsProper) :
    fieldsOf? .layered v = some words ↔ MeansWords v words := by
  cases v with
  | table entries => exact fieldsOf?_table_eq_some_iff (Value.isProper_table_iff.mp hv).1
  | _ =>
    refine iff_of_false (Option.some_ne_none words).symm ?_
    rintro ⟨-, _, heq, -⟩
    cases heq

theorem lookup_mergeEntries_of_meansWords {overlay : List (String × Value)}
    (h : MeansWords (.table entries) words) (hkeys : HasDistinctKeys overlay) (key : String) :
    (mergeEntries entries overlay).lookup key = (overlay.lookup key).or (entries.lookup key) := by
  -- Under each key of the base is a text, which is replaced and not merged.
  have hover : mergeOver (entries.lookup key) = id := by
    funext v
    cases hlookup : entries.lookup key with
    | none => rfl
    | some old =>
      obtain ⟨s, hs⟩ := h.exists_meansText key old hlookup
      exact Toml.merge_of_not_table hs.ne_table v
  rw [Toml.lookup_mergeEntries hkeys, hover, Option.map_id_apply]

/-- Words over words: for each name the overlay counts if it has the name, and else the base. -/
theorem MeansWords.mergeEntries {overlay : List (String × Value)} {new : Fields}
    (h : MeansWords (.table entries) words) (hkeys : HasDistinctKeys overlay)
    (hnew : MeansWords (.table overlay) new) :
    MeansWords (.table (mergeEntries entries overlay)) (words.override new) := by
  obtain ⟨hordered, hrel⟩ := meansWords_table_iff.mp h
  obtain ⟨hordered', hrel'⟩ := meansWords_table_iff.mp hnew
  refine meansWords_table_iff.mpr ⟨hordered.override new, fun key => ?_⟩
  rw [lookup_mergeEntries_of_meansWords h hkeys, Fields.get?_override _ hordered']
  exact rel_or (hrel' key) (hrel key)

theorem meansWords_mergeEntries_iff {overlay : List (String × Value)} {merged : Fields}
    (h : MeansWords (.table entries) words) (hkeys : HasDistinctKeys overlay) :
    MeansWords (.table (mergeEntries entries overlay)) merged ↔
      ∃ new, MeansWords (.table overlay) new ∧ merged = words.override new := by
  refine ⟨fun hmerged => ?_, fun ⟨new, hnew, heq⟩ => heq ▸ h.mergeEntries hkeys hnew⟩
  -- The values of the overlay are all in the merged table, so each of them means a text.
  have hall : ∀ key v, overlay.lookup key = some v → ∃ s, MeansText v s := fun key v hv => by
    refine hmerged.exists_meansText key v ?_
    rw [lookup_mergeEntries_of_meansWords h hkeys, hv, Option.some_or]
  obtain ⟨new, hdecoded⟩ := exists_fieldsOf? hkeys hall
  have hnew := meansWords_of_fieldsOf? hkeys hdecoded
  exact ⟨new, hnew, hmerged.unique (h.mergeEntries hkeys hnew)⟩

end Words

theorem means_fieldsValue {words : Fields} (h : words.IsOrdered) :
    MeansWords (fieldsValue words) words := by
  refine meansWords_table_iff.mpr ⟨h, fun key => ?_⟩
  rw [lookup_map, ← Fields.get?]
  cases words.get? key with
  | none => exact .none
  | some s => exact .some (.inl rfl)

theorem isProper_fieldsValue {words : Fields} (h : words.IsOrdered) :
    (fieldsValue words).IsProper := by
  refine .table ?_ fun e he => ?_
  · rw [HasDistinctKeys, List.map_map]
    exact HasDistinctKeys.of_pairwise_lt h
  · obtain ⟨_, -, rfl⟩ := List.mem_map.mp he
    exact .text _

theorem fieldsOf?_merge {old v : Value} {words merged : Fields} (hold : old.IsProper)
    (h : MeansWords old words) (hv : v.IsProper) :
    fieldsOf? .layered (merge old v) = some merged ↔
      ∃ new, MeansWords v new ∧ merged = words.override new := by
  have ⟨_, entries, heq, _⟩ := h
  subst heq
  obtain ⟨hkeys, -⟩ := Value.isProper_table_iff.mp hold
  cases v with
  | table overlay =>
    rw [merge, fieldsOf?_table_eq_some_iff (Toml.hasDistinctKeys_mergeEntries hkeys overlay)]
    exact meansWords_mergeEntries_iff h (Value.isProper_table_iff.mp hv).1
  | _ =>
    rw [Toml.merge_of_not_table_overlay fun _ heq => by cases heq]
    refine iff_of_false (Option.some_ne_none merged).symm ?_
    rintro ⟨new, ⟨-, _, heq, -⟩, -⟩
    cases heq

/-- Words, which come together by name. -/
@[reducible]
def words : Kind where
  Carrier := Fields
  decode? := fieldsOf? .layered
  write? fields := some (fieldsValue fields)
  Means := MeansWords
  IsPlain _ := True
  IsOrdered := Fields.IsOrdered
  lay := Fields.override
  decode?_eq_some_iff := fieldsOf?_eq_some_iff
  isOrdered_of_means h := h.1
  exists_write? _ _ := ⟨_, rfl⟩
  isProper_of_write? ha h := Option.some.inj h ▸ isProper_fieldsValue ha
  isPlain_of_write? _ := trivial
  means_of_write? ha h := Option.some.inj h ▸ means_fieldsValue ha
  decode?_merge hold _ hmeans hv := fieldsOf?_merge hold hmeans hv

end Kind

end CommitLint.Settings
