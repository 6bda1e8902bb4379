import CommitLint.Proofs.Settings.Schema
import CommitLint.Proofs.Toml.Document
import CommitLint.Settings.Layer
import Mathlib

/-!
# A document laid over settings

Settings are written as a document, another document is merged over it, and the result is read. What
comes of it is said field by field (`overlay_fieldwise`): where the overlay has a value for a field,
the field holds what that value means over what it held before (`Field.IsLaid`), and else it stays
as it is.

Nothing here depends on how the base was written. A document holds some settings (`IsHeld`) if each
field is there in its usual form or left out where it has its default, and reading a merged document
only depends on the settings that the lower one holds and on the upper one
(`IsHeld.decode?_mergeEntries`). This is proved for a field first, then for a section of any fields,
then for all sections.
-/

namespace CommitLint.Settings

open Toml (Value merge mergeEntries mergeOver)
open Entries

/-! ### Fields -/

section Field

variable {σ : Type} (f : Field σ)

/-- A table holds the field of a record, in the usual form, or leaves it out where the record has
the default. -/
def Field.IsHeld (entries : List (String × Value)) (default r : σ) : Prop :=
  match entries.lookup f.name with
  | none => f.get r = f.get default
  | some v => v.IsProper ∧ f.kind.IsPlain v ∧ f.kind.Means v (f.get r)

/-- With a table laid over it, a field that held `old` holds `new`: what the value of the table
means over `old`, or `old` where the table leaves the field out. -/
def Field.IsLaid (overlay : List (String × Value)) (old new : f.kind.Carrier) : Prop :=
  match overlay.lookup f.name with
  | none => new = old
  | some v => ∃ a, f.kind.Means v a ∧ new = f.kind.lay old a

variable {f} {entries overlay : List (String × Value)} {default base r : σ}

theorem Field.IsHeld.read? (h : f.IsHeld entries default base) :
    f.read? entries default = some (f.get base) := by
  rw [Field.IsHeld] at h
  rw [Field.read?, fieldOr]
  cases hlookup : entries.lookup f.name with
  | none =>
    rw [hlookup] at h
    exact congrArg some h.symm
  | some v =>
    rw [hlookup] at h
    exact (f.kind.decode?_eq_some_iff h.1).mpr h.2.2

/-- A merged table has the field of the base with the overlay laid over it. -/
theorem Field.IsHeld.read?_mergeEntries (h : f.IsHeld entries default base)
    (hdefault : ∀ v a, f.kind.Means v a → f.kind.lay (f.get default) a = a)
    (hoverlay : (Value.table overlay).IsProper) :
    f.read? (mergeEntries entries overlay) default = some (f.get r) ↔
      f.IsLaid overlay (f.get base) (f.get r) := by
  have hkeys := (Value.isProper_table_iff.mp hoverlay).1
  rw [Field.IsLaid]
  cases hnew : overlay.lookup f.name with
  | none =>
    have hsame : (mergeEntries entries overlay).lookup f.name = entries.lookup f.name := by
      rw [Toml.lookup_mergeEntries hkeys, hnew, Option.map_none, Option.none_or]
    have hread := h.read?
    rw [Field.read?, fieldOr] at hread ⊢
    rw [hsame, hread, Option.some.injEq, eq_comm]
  | some v =>
    have hv := hoverlay.of_lookup hnew
    rw [Field.read?, fieldOr, Toml.lookup_mergeEntries hkeys, hnew, Option.map_some, Option.some_or]
    rw [Field.IsHeld] at h
    cases hold : entries.lookup f.name with
    | none =>
      rw [hold] at h
      -- The base has the default, over which a value counts as if it stood alone.
      show f.kind.decode? v = some (f.get r) ↔ _
      rw [f.kind.decode?_eq_some_iff hv, h]
      refine ⟨fun hmeans => ⟨f.get r, hmeans, (hdefault v _ hmeans).symm⟩, ?_⟩
      rintro ⟨a, hmeans, heq⟩
      rwa [heq, hdefault v a hmeans]
    | some old =>
      rw [hold] at h
      exact f.kind.decode?_merge h.1 h.2.1 h.2.2 hv

end Field

/-! ### Sections -/

namespace Section

variable (S : Section)

/-- A document holds a section, as a table in the usual form, or leaves it out where it has its
default. -/
def IsHeld (entries : List (String × Value)) (r : S.Carrier) : Prop :=
  match entries.lookup S.name with
  | none => r = S.default
  | some v => ∃ fields, v = .table fields ∧ ∀ f ∈ S.fields, f.IsHeld fields S.default r

/-- With the document laid over it, the section `base` becomes `r`. What is no table stands for the
whole section. -/
def IsLaid (overlay : List (String × Value)) (base r : S.Carrier) : Prop :=
  match overlay.lookup S.name with
  | none => r = base
  | some (.table fields) => ∀ f ∈ S.fields, f.IsLaid fields (f.get base) (f.get r)
  | some v => S.decode? v = some r

variable {S} {entries overlay : List (String × Value)} {base r : S.Carrier}

theorem decode?_mergeEntries {fields new : List (String × Value)}
    (h : ∀ f ∈ S.fields, f.IsHeld fields S.default base) (hnew : (Value.table new).IsProper) :
    S.decode? (.table (mergeEntries fields new)) = some r ↔
      ∀ f ∈ S.fields, f.IsLaid new (f.get base) (f.get r) := by
  rw [S.decode?_table_eq_some_iff]
  exact forall₂_congr fun f hf =>
    (h f hf).read?_mergeEntries (fun _ _ hmeans => S.lay_default hf hmeans) hnew

theorem IsHeld.read? (h : S.IsHeld entries base) : S.read? entries = some base := by
  rw [IsHeld] at h
  rw [Section.read?, fieldOr]
  cases hlookup : entries.lookup S.name with
  | none =>
    rw [hlookup] at h
    exact congrArg some h.symm
  | some v =>
    rw [hlookup] at h
    obtain ⟨fields, rfl, hfields⟩ := h
    exact S.decode?_table_eq_some_iff.mpr fun f hf => (hfields f hf).read?

theorem IsHeld.decode?_mergeOver (h : S.IsHeld entries base) {new : List (String × Value)}
    (hnew : (Value.table new).IsProper) :
    S.decode? (mergeOver (entries.lookup S.name) (.table new)) = some r ↔
      ∀ f ∈ S.fields, f.IsLaid new (f.get base) (f.get r) := by
  rw [IsHeld] at h
  cases hold : entries.lookup S.name with
  | none =>
    -- A section that is left out is a table without fields, over which the overlay stays as it is.
    rw [hold] at h
    have hnil : ∀ f ∈ S.fields, f.IsHeld [] S.default base := fun _ _ => h ▸ rfl
    rw [← decode?_mergeEntries hnil hnew,
      Toml.mergeEntries_nil (Value.isProper_table_iff.mp hnew).1, mergeOver]
  | some old =>
    rw [hold] at h
    obtain ⟨fields, rfl, hfields⟩ := h
    rw [← decode?_mergeEntries hfields hnew, mergeOver, merge]

/-- A merged document has the section of the base with the overlay laid over it. -/
theorem IsHeld.read?_mergeEntries (h : S.IsHeld entries base)
    (hoverlay : (Value.table overlay).IsProper) :
    S.read? (mergeEntries entries overlay) = some r ↔ S.IsLaid overlay base r := by
  have hread := h.read?
  rw [Section.read?, fieldOr] at hread ⊢
  rw [Toml.lookup_mergeEntries (Value.isProper_table_iff.mp hoverlay).1, IsLaid]
  cases hnew : overlay.lookup S.name with
  | none => rw [Option.map_none, Option.none_or, hread, Option.some.injEq, eq_comm]
  | some v =>
    rw [Option.map_some, Option.some_or]
    cases v with
    | table new => exact h.decode?_mergeOver (hoverlay.of_lookup hnew)
    | _ =>
      -- What is no table takes the place of the section, whatever stood there.
      show S.decode? (mergeOver _ _) = some r ↔ S.decode? _ = some r
      rw [Toml.mergeOver_of_not_table fun _ heq => by cases heq]

end Section

/-! ### Settings -/

/-- A document holds some settings. -/
def IsHeld (entries : List (String × Value)) (s : Settings) : Prop :=
  ∀ S ∈ sections, S.IsHeld entries (S.get s)

theorem IsHeld.decode?_mergeEntries {entries overlay : List (String × Value)} {base s : Settings}
    (h : IsHeld entries base) (hoverlay : (Value.table overlay).IsProper) :
    decode? .layered (mergeEntries entries overlay) = some s ↔
      ∀ S ∈ sections, S.IsLaid overlay (S.get base) (S.get s) := by
  rw [decode?_eq_some_iff]
  exact forall₂_congr fun S hS => (h S hS).read?_mergeEntries hoverlay

/-- Two documents that hold the same settings come to the same under every other one. -/
theorem IsHeld.decode?_mergeEntries_eq {entries entries' overlay : List (String × Value)}
    {base : Settings} (h : IsHeld entries base) (h' : IsHeld entries' base)
    (hoverlay : (Value.table overlay).IsProper) :
    decode? .layered (mergeEntries entries overlay) =
      decode? .layered (mergeEntries entries' overlay) :=
  Option.ext fun _ =>
    (h.decode?_mergeEntries hoverlay).trans (h'.decode?_mergeEntries hoverlay).symm

theorem forall_isOrdered_iff {s : Settings} :
    (∀ S ∈ sections, ∀ f ∈ S.fields, f.kind.IsOrdered (f.get (S.get s))) ↔
      s.spell.customWords.IsOrdered := by
  simp [sections]

/-- The document that some settings are written as holds them. -/
theorem isHeld_of_encode? {s : Settings} {entries : List (String × Value)}
    (hs : s.spell.customWords.IsOrdered) (h : s.encode? = some entries) : IsHeld entries s := by
  intro S hS
  obtain ⟨fields, hlookup, hfields⟩ := lookup_of_encode? h S hS
  rw [Section.IsHeld, hlookup]
  refine ⟨fields, rfl, fun f hf => ?_⟩
  obtain ⟨v, hv⟩ := exists_encode?_iff.mp ⟨entries, h⟩ S hS f hf
  have hordered := forall_isOrdered_iff.mpr hs S hS f hf
  rw [Field.IsHeld, hfields f hf, hv]
  exact ⟨f.kind.isProper_of_write? hordered hv, f.kind.isPlain_of_write? hv,
    f.kind.means_of_write? hordered hv⟩

/-! ### Overlays that write sections as tables -/

/-- Every section in a document is a table. -/
def HasTables (entries : List (String × Value)) : Prop :=
  ∀ S ∈ sections, ∀ v, entries.lookup S.name = some v → ∃ fields, v = .table fields

/-- What a document has of a section. -/
def sectionOf (entries : List (String × Value)) (name : String) : List (String × Value) :=
  match entries.lookup name with
  | some (.table fields) => fields
  | _ => []

/-- If a table sets the field, its value there is one of the kind of the field. -/
def Field.IsReadable {σ : Type} (f : Field σ) (fields : List (String × Value)) : Prop :=
  ∀ v, fields.lookup f.name = some v → ∃ a, f.kind.Means v a

/-- With a document laid over them, the settings `base` become `merged`, field by field. -/
def IsOverlaid (base : Settings) (overlay : List (String × Value)) (merged : Settings) : Prop :=
  ∀ S ∈ sections, ∀ f ∈ S.fields,
    f.IsLaid (sectionOf overlay S.name) (f.get (S.get base)) (f.get (S.get merged))

section Overlay

variable {base merged : Settings} {overlay : List (String × Value)}

theorem HasTables.isLaid_iff (h : HasTables overlay) {S : Section} (hS : S ∈ sections)
    {r r' : S.Carrier} :
    S.IsLaid overlay r r' ↔
      ∀ f ∈ S.fields, f.IsLaid (sectionOf overlay S.name) (f.get r) (f.get r') := by
  rw [Section.IsLaid, sectionOf]
  cases hlookup : overlay.lookup S.name with
  | none => exact ⟨fun heq _ _ => heq ▸ rfl, fun hfields => S.ext hfields⟩
  | some v =>
    obtain ⟨fields, rfl⟩ := h S hS v hlookup
    rfl

theorem HasTables.decode?_mergeEntries (h : HasTables overlay) {entries : List (String × Value)}
    (hheld : IsHeld entries base) (hoverlay : (Value.table overlay).IsProper) :
    decode? .layered (mergeEntries entries overlay) = some merged ↔
      base.IsOverlaid overlay merged := by
  rw [hheld.decode?_mergeEntries hoverlay]
  exact forall₂_congr fun S hS => h.isLaid_iff hS

theorem Field.exists_isLaid {σ : Type} {f : Field σ} {fields : List (String × Value)}
    (h : f.IsReadable fields) (old : f.kind.Carrier) : ∃ new, f.IsLaid fields old new := by
  cases hlookup : fields.lookup f.name with
  | none => exact ⟨old, by rw [Field.IsLaid, hlookup]⟩
  | some v =>
    obtain ⟨a, ha⟩ := h v hlookup
    refine ⟨f.kind.lay old a, ?_⟩
    rw [Field.IsLaid, hlookup]
    exact ⟨a, ha, rfl⟩

theorem Field.IsLaid.isReadable {σ : Type} {f : Field σ} {fields : List (String × Value)}
    {old new : f.kind.Carrier} (h : f.IsLaid fields old new) : f.IsReadable fields := by
  intro v hlookup
  rw [Field.IsLaid, hlookup] at h
  obtain ⟨a, ha, -⟩ := h
  exact ⟨a, ha⟩

/-- An overlay can be laid over some settings if all that it sets has a meaning. -/
theorem exists_isOverlaid (base : Settings)
    (h : ∀ S ∈ sections, ∀ f ∈ S.fields, f.IsReadable (sectionOf overlay S.name)) :
    ∃ merged, base.IsOverlaid overlay merged :=
  exists_settings fun S hS => S.exists_record fun f hf => f.exists_isLaid (h S hS f hf) _

end Overlay

/-! ### Settings that can be used -/

/-- Settings with which every rule can work. -/
def IsUsable (s : Settings) : Prop :=
  s.subject.maxLength ≠ 0 ∧ s.conventional.maxDescriptionLength ≠ 0 ∧
    ∀ kind ∈ s.signature.allowedTypes,
      Text.lower kind.toList = "gpg".toList ∨ Text.lower kind.toList = "ssh".toList

theorem namesSignatureKind_iff {kind : String} :
    namesSignatureKind kind = true ↔
      Text.lower kind.toList = "gpg".toList ∨ Text.lower kind.toList = "ssh".toList := by
  rw [namesSignatureKind, Bool.or_eq_true, beq_iff_eq, beq_iff_eq]

theorem problem?_eq_none_iff {s : Settings} : s.problem? = none ↔ s.IsUsable := by
  rw [problem?, IsUsable]
  by_cases hlength : s.subject.maxLength = 0
  · rw [if_pos hlength]
    exact iff_of_false (Option.some_ne_none _) fun h => h.1 hlength
  by_cases hdescription : s.conventional.maxDescriptionLength = 0
  · rw [if_neg hlength, if_pos hdescription]
    exact iff_of_false (Option.some_ne_none _) fun h => h.2.1 hdescription
  rw [if_neg hlength, if_neg hdescription, Option.map_eq_none_iff, List.find?_eq_none,
    and_iff_right hlength, and_iff_right hdescription]
  refine forall₂_congr fun kind _ => ?_
  rw [Bool.not_eq_true, Bool.not_eq_false', namesSignatureKind_iff]

instance (s : Settings) : Decidable s.IsUsable := decidable_of_iff _ problem?_eq_none_iff

theorem exists_of_problem? {s : Settings} {failure : Failure} (h : s.problem? = some failure) :
    ∃ key problem, failure = .settingsInvalid key problem := by
  rw [problem?] at h
  split_ifs at h
  · exact ⟨_, _, (Option.some.inj h).symm⟩
  · exact ⟨_, _, (Option.some.inj h).symm⟩
  · obtain ⟨kind, -, rfl⟩ := Option.map_eq_some_iff.mp h
    exact ⟨_, _, rfl⟩

theorem checked_of_isUsable {s : Settings} (h : s.IsUsable) : s.checked = .ok s := by
  rw [checked, problem?_eq_none_iff.mpr h]

theorem exists_checked_eq_error {s : Settings} (h : ¬s.IsUsable) :
    ∃ key problem, s.checked = .error (.settingsInvalid key problem) := by
  obtain ⟨failure, hfailure⟩ := Option.ne_none_iff_exists'.mp (mt problem?_eq_none_iff.mp h)
  obtain ⟨key, problem, rfl⟩ := exists_of_problem? hfailure
  exact ⟨key, problem, by rw [checked, hfailure]⟩

/-! ### Laying a document over settings -/

theorem overlay_eq_ofEntries {base : Settings} {entries overlay : List (String × Value)}
    {text : String} (hbase : base.encode? = some entries)
    (hread : Toml.readDocument text = some overlay) :
    base.overlay text = ofEntries .layered (mergeEntries entries overlay) := by
  rw [Settings.overlay, hbase, readEntries, hread]
  rfl

section Overlay

variable {base : Settings} {text : String} {overlay : List (String × Value)}

theorem overlay_of_isOverlaid {merged : Settings} {entries : List (String × Value)}
    (hordered : base.spell.customWords.IsOrdered) (hbase : base.encode? = some entries)
    (hread : Toml.readDocument text = some overlay) (htables : HasTables overlay)
    (h : base.IsOverlaid overlay merged) : base.overlay text = merged.checked := by
  have hheld := isHeld_of_encode? hordered hbase
  have hdecode := (htables.decode?_mergeEntries hheld (Toml.isProper_of_readDocument hread)).mpr h
  rw [overlay_eq_ofEntries hbase hread, ofEntries, hdecode]

theorem overlay_of_not_isReadable (hordered : base.spell.customWords.IsOrdered)
    (hread : Toml.readDocument text = some overlay) (htables : HasTables overlay)
    (h : (∃ n ∈ base.numbers, 0x8000000000000000 ≤ n) ∨
      ∃ S ∈ sections, ∃ f ∈ S.fields, ¬f.IsReadable (sectionOf overlay S.name)) :
    base.overlay text = .error .settingsUnreadable := by
  cases hbase : base.encode? with
  | none => rw [Settings.overlay, hbase]
  | some entries =>
    rw [overlay_eq_ofEntries hbase hread, ofEntries]
    cases hdecode : decode? .layered (mergeEntries entries overlay) with
    | none => rfl
    | some merged =>
      have hheld := isHeld_of_encode? hordered hbase
      have hlaid :=
        (htables.decode?_mergeEntries hheld (Toml.isProper_of_readDocument hread)).mp hdecode
      rcases h with ⟨n, hn, hlarge⟩ | ⟨S, hS, f, hf, hunreadable⟩
      · exact absurd (exists_encode?_iff_lt.mp ⟨entries, hbase⟩ n hn) (Nat.not_lt.mpr hlarge)
      · exact absurd (hlaid S hS f hf).isReadable hunreadable

theorem Field.isLaid_congr {σ : Type} {f : Field σ} {fields fields' : List (String × Value)}
    (h : fields'.lookup f.name = fields.lookup f.name) (old new : f.kind.Carrier) :
    f.IsLaid fields' old new ↔ f.IsLaid fields old new := by
  rw [Field.IsLaid, Field.IsLaid, h]

/-- Only what a document says of the fields matters. -/
theorem overlay_congr {text' : String} {overlay' : List (String × Value)}
    (hordered : base.spell.customWords.IsOrdered)
    (hread : Toml.readDocument text = some overlay) (htables : HasTables overlay)
    (hread' : Toml.readDocument text' = some overlay') (htables' : HasTables overlay')
    (h : ∀ S ∈ sections, ∀ f ∈ S.fields,
      (sectionOf overlay' S.name).lookup f.name = (sectionOf overlay S.name).lookup f.name) :
    base.overlay text' = base.overlay text := by
  cases hbase : base.encode? with
  | none => rw [Settings.overlay, Settings.overlay, hbase]
  | some entries =>
    have hheld := isHeld_of_encode? hordered hbase
    have hsame : decode? .layered (mergeEntries entries overlay') =
        decode? .layered (mergeEntries entries overlay) := Option.ext fun merged => by
      rw [htables'.decode?_mergeEntries hheld (Toml.isProper_of_readDocument hread'),
        htables.decode?_mergeEntries hheld (Toml.isProper_of_readDocument hread)]
      exact forall₂_congr fun S hS => forall₂_congr fun f hf => Field.isLaid_congr (h S hS f hf) ..
    rw [overlay_eq_ofEntries hbase hread, overlay_eq_ofEntries hbase hread', ofEntries, ofEntries,
      hsame]

/-- What laying a document over some settings comes to, if the document writes its sections as
tables. It fails to be read when a number of the base cannot be written, or when a value in the
document is not one of the kind of its field. Otherwise the settings are merged field by field, and
checked. What the document says of other keys does not matter, and if it says nothing of any field,
the base stays as it is. -/
theorem overlay_fieldwise (hordered : base.spell.customWords.IsOrdered)
    (hread : Toml.readDocument text = some overlay) (htables : HasTables overlay) :
    ((∃ n ∈ base.numbers, 0x8000000000000000 ≤ n) ∨
        (∃ S ∈ sections, ∃ f ∈ S.fields, ¬f.IsReadable (sectionOf overlay S.name)) →
      base.overlay text = .error .settingsUnreadable) ∧
    ((∀ n ∈ base.numbers, n < 0x8000000000000000) →
        (∀ S ∈ sections, ∀ f ∈ S.fields, f.IsReadable (sectionOf overlay S.name)) →
      ∃ merged, base.IsOverlaid overlay merged ∧
        (∀ s, base.IsOverlaid overlay s → s = merged) ∧
        (merged.IsUsable → base.overlay text = .ok merged) ∧
        (¬merged.IsUsable →
          ∃ key problem, base.overlay text = .error (.settingsInvalid key problem))) ∧
    (∀ text' overlay', Toml.readDocument text' = some overlay' → HasTables overlay' →
        (∀ S ∈ sections, ∀ f ∈ S.fields,
          (sectionOf overlay' S.name).lookup f.name = (sectionOf overlay S.name).lookup f.name) →
      base.overlay text' = base.overlay text) ∧
    ((∀ S ∈ sections, ∀ f ∈ S.fields, (sectionOf overlay S.name).lookup f.name = none) →
        (∀ n ∈ base.numbers, n < 0x8000000000000000) → base.IsUsable →
      base.overlay text = .ok base) := by
  refine ⟨overlay_of_not_isReadable hordered hread htables, fun hnumbers hreadable => ?_,
    fun _ _ hread' htables' => overlay_congr hordered hread htables hread' htables',
    fun hnothing hnumbers husable => ?_⟩
  · obtain ⟨entries, hbase⟩ := exists_encode?_iff_lt.mpr hnumbers
    obtain ⟨merged, hmerged⟩ := exists_isOverlaid base hreadable
    have hresult := overlay_of_isOverlaid hordered hbase hread htables hmerged
    -- Whatever the base becomes is what is read, and only one thing is read.
    have hdecode : ∀ s, base.IsOverlaid overlay s ↔
        decode? .layered (mergeEntries entries overlay) = some s := fun s =>
      (htables.decode?_mergeEntries (isHeld_of_encode? hordered hbase)
        (Toml.isProper_of_readDocument hread)).symm
    refine ⟨merged, hmerged, fun s hs => ?_, fun husable => ?_, fun hnot => ?_⟩
    · exact Option.some.inj (((hdecode s).mp hs).symm.trans ((hdecode merged).mp hmerged))
    · rw [hresult, checked_of_isUsable husable]
    · obtain ⟨key, problem, hproblem⟩ := exists_checked_eq_error hnot
      exact ⟨key, problem, hresult.trans hproblem⟩
  · obtain ⟨entries, hbase⟩ := exists_encode?_iff_lt.mpr hnumbers
    have hsame : base.IsOverlaid overlay base := fun S hS f hf => by
      rw [Field.IsLaid, hnothing S hS f hf]
    rw [overlay_of_isOverlaid hordered hbase hread htables hsame, checked_of_isUsable husable]

end Overlay

/-- Words come together by name, and a key that means nothing is passed over. -/
theorem overlay_fieldwise_words :
    ({ spell := ⟨.uk, ["foo"], ⟨[("a", "b"), ("c", "d")]⟩⟩ } : Settings).overlay
        "x = 1\nspell.custom_words.c = \"e\"" =
      .ok { spell := ⟨.uk, ["foo"], ⟨[("a", "b"), ("c", "e")]⟩⟩ } := by
  have hordered : (⟨[("a", "b"), ("c", "d")]⟩ : Fields).IsOrdered :=
    List.pairwise_pair.mpr (by decide +kernel)
  have hread : Toml.readDocument "x = 1\nspell.custom_words.c = \"e\"" =
      some [("x", .integer 1),
        ("spell", .table [("custom_words", .table [("c", .text "e")])])] := by cbv
  have hmeans : Kind.MeansWords (.table [("c", .text "e")]) ⟨[("c", "e")]⟩ :=
    Kind.meansWords_of_fieldsOf? (by simp [HasDistinctKeys]) rfl
  obtain ⟨-, hmerged, -⟩ :=
    @overlay_fieldwise { spell := ⟨.uk, ["foo"], ⟨[("a", "b"), ("c", "d")]⟩⟩ } _ _ hordered hread
      (by simp [HasTables, sections, lookup_cons])
  obtain ⟨merged, -, hunique, husable, -⟩ := hmerged (by decide) (by
    simpa [sections, sectionOf, Field.IsReadable, lookup_cons] using ⟨_, hmeans⟩)
  have hlaid := hunique { spell := ⟨.uk, ["foo"], ⟨[("a", "b"), ("c", "e")]⟩⟩ } (by
    simpa [IsOverlaid, sections, sectionOf, Field.IsLaid, lookup_cons] using ⟨_, hmeans, rfl⟩)
  rw [hlaid]
  exact husable (hlaid ▸ by decide +kernel)

end CommitLint.Settings
