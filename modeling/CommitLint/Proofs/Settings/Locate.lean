import CommitLint.Proofs.Settings.Layer
import CommitLint.Settings.Locate

/-!
# Two ways to layer the files of settings

The settings for work in a directory are read from two documents that are merged as they stand: that
of the user, and over it that of the project. Reading the document of the user first, with all
defaults, and laying that of the project over the settings comes to the same (`load_eq_overlay`).

For a document that is read as some settings holds these settings (`isHeld_of_decode?`), just like
the document that the settings are written as, and what either comes to under another document
depends on the settings only (`IsHeld.decode?_mergeEntries_eq`). The settings can be written,
because the numbers of a document are of 64 bits (`IsHeld.exists_encode?`).
-/

namespace CommitLint.Settings

open Toml (Value mergeEntries)
open Entries

/-! ### Documents that hold settings -/

/-- Where a document has choices. -/
def choicePaths : List (List String) :=
  [["subject", "case"], ["spell", "locale"], ["output", "format"]]

/-- Every choice in a document is the name of one. -/
def HasPlainChoices (entries : List (String × Value)) : Prop :=
  ∀ path ∈ choicePaths, ∀ v, (Value.table entries).at? path = some v → ∃ name, v = .text name

section Held

variable {entries : List (String × Value)} {s : Settings}

theorem at?_of_lookup_sectionOf {name key : String} {v : Value}
    (h : (sectionOf entries name).lookup key = some v) :
    (Value.table entries).at? [name, key] = some v := by
  rw [sectionOf] at h
  split at h
  next fields hlookup =>
    rw [Value.at?, hlookup, Option.bind_some, Value.at?, h, Option.bind_some, Value.at?]
  next => cases h

/-- Only choices can be written in a form that is not plain. -/
theorem isPlain_or_mem_choicePaths :
    ∀ S ∈ sections, ∀ f ∈ S.fields, (∀ v, f.kind.IsPlain v) ∨
      [S.name, f.name] ∈ choicePaths ∧ ∀ v, (∃ name, v = .text name) → f.kind.IsPlain v := by
  simp [sections, choicePaths]

theorem HasPlainChoices.isPlain (h : HasPlainChoices entries) {S : Section} (hS : S ∈ sections)
    {f : Field S.Carrier} (hf : f ∈ S.fields) {v : Value}
    (hlookup : (sectionOf entries S.name).lookup f.name = some v) : f.kind.IsPlain v := by
  rcases isPlain_or_mem_choicePaths S hS f hf with hplain | ⟨hpath, hplain⟩
  · exact hplain v
  · exact hplain v (h _ hpath v (at?_of_lookup_sectionOf hlookup))

/-- A document holds the settings that it is read as. -/
theorem isHeld_of_decode? (hproper : (Value.table entries).IsProper) (htables : HasTables entries)
    (hchoices : HasPlainChoices entries) (h : decode? .layered entries = some s) :
    IsHeld entries s := by
  intro S hS
  have hread := decode?_eq_some_iff.mp h S hS
  rw [Section.read?, fieldOr] at hread
  rw [Section.IsHeld]
  cases hlookup : entries.lookup S.name with
  | none =>
    rw [hlookup] at hread
    exact (Option.some.inj hread).symm
  | some v =>
    obtain ⟨fields, rfl⟩ := htables S hS v hlookup
    rw [hlookup] at hread
    refine ⟨fields, rfl, fun f hf => ?_⟩
    have hfield := S.decode?_table_eq_some_iff.mp hread f hf
    rw [Field.read?, fieldOr] at hfield
    rw [Field.IsHeld]
    cases hvalue : fields.lookup f.name with
    | none =>
      rw [hvalue] at hfield
      exact (Option.some.inj hfield).symm
    | some w =>
      rw [hvalue] at hfield
      have hw := (hproper.of_lookup hlookup).of_lookup hvalue
      have hsection : (sectionOf entries S.name).lookup f.name = some w := by
        rw [sectionOf, hlookup]
        exact hvalue
      exact ⟨hw, hchoices.isPlain hS hf hsection, (f.kind.decode?_eq_some_iff hw).mp hfield⟩

/-- What holds of the defaults and of all that a proper value can say, holds of settings that a
document holds. -/
theorem IsHeld.forall_fields (h : IsHeld entries s) {P : (k : Kind) → k.Carrier → Prop}
    (hdefault : ∀ S ∈ sections, ∀ f ∈ S.fields, P f.kind (f.get S.default))
    (hmeans : ∀ (k : Kind) v a, v.IsProper → k.Means v a → P k a) :
    ∀ S ∈ sections, ∀ f ∈ S.fields, P f.kind (f.get (S.get s)) := by
  intro S hS f hf
  have hsection := h S hS
  rw [Section.IsHeld] at hsection
  split at hsection
  next => exact hsection ▸ hdefault S hS f hf
  next =>
    obtain ⟨fields, -, hfields⟩ := hsection
    have hfield := hfields f hf
    rw [Field.IsHeld] at hfield
    split at hfield
    next => exact hfield ▸ hdefault S hS f hf
    next v _ => exact hmeans f.kind v _ hfield.1 hfield.2.2

theorem IsHeld.exists_encode? (h : IsHeld entries s) : ∃ written, s.encode? = some written := by
  refine exists_encode?_iff.mpr
    (h.forall_fields (P := fun k a => ∃ v, k.write? a = some v) ?_ fun k v a hv hmeans => ?_)
  · simp [sections, naturalValue?]
  · exact k.exists_write? hv hmeans

theorem IsHeld.isOrdered (h : IsHeld entries s) : s.spell.customWords.IsOrdered := by
  refine forall_isOrdered_iff.mp
    (h.forall_fields (P := fun k a => k.IsOrdered a) ?_ fun k v a _ hmeans => ?_)
  · simp [sections, Fields.isOrdered_empty]
  · exact k.isOrdered_of_means hmeans

end Held

/-! ### Files -/

section Files

variable {t : FileTree} {userFile here : Path} {user project : String}
  {entries : List (String × Value)} {s : Settings}

theorem load_eq_ofLayers {file : Path} (huser : t.text? userFile = some user)
    (hfile : projectFile? t here = some file) (hproject : t.text? file = some project) :
    load t userFile here = ofLayers [user, project] := by
  have hexists : t.exists? userFile = true := by
    rw [FileTree.exists?, FileTree.isFile, huser, Option.isSome_some, Bool.true_or]
  rw [load, if_pos hexists, hfile]
  simp [readLayer, huser, hproject, bind, Except.bind, pure, Except.pure]

theorem has_of_read {written : String} (h : t.read here written = .ok user) :
    t.has here written = true := by
  rw [FileTree.read] at h
  rw [FileTree.has]
  cases hresolve : t.resolve here written with
  | error fault =>
    rw [hresolve] at h
    cases h
  | ok p =>
    rw [hresolve] at h
    cases htext : t.text? p with
    | none =>
      simp only [bind, Except.bind, htext] at h
      cases h
    | some _ =>
      show t.exists? p = true
      rw [FileTree.exists?, FileTree.isFile, htext, Option.isSome_some, Bool.true_or]

theorem loadFrom_eq_ofLayers {written : String} (h : t.read here written = .ok user) :
    loadFrom t here written = ofLayers [user] := by
  rw [loadFrom, if_pos (has_of_read h), h]

theorem ofLayers_singleton (hread : Toml.readDocument user = some entries) :
    ofLayers [user] = ofEntries .layered entries := by
  have hkeys := (Value.isProper_table_iff.mp (Toml.isProper_of_readDocument hread)).1
  have hnil := Toml.mergeEntries_nil hkeys
  simp [ofLayers, readEntries, hread, hnil, bind, Except.bind, pure, Except.pure]

theorem ofLayers_pair (hread : Toml.readDocument user = some entries) :
    ofLayers [user, project] =
      match Toml.readDocument project with
      | none => .error .settingsUnreadable
      | some overlay => ofEntries .layered (mergeEntries entries overlay) := by
  have hkeys := (Value.isProper_table_iff.mp (Toml.isProper_of_readDocument hread)).1
  have hnil := Toml.mergeEntries_nil hkeys
  cases hproject : Toml.readDocument project with
  | none => simp [ofLayers, readEntries, hread, hproject, bind, Except.bind]
  | some _ =>
    simp [ofLayers, readEntries, hread, hproject, hnil, bind, Except.bind, pure, Except.pure]

theorem decode?_of_ofEntries {m : Manner} (h : ofEntries m entries = .ok s) :
    decode? m entries = some s := by
  rw [ofEntries] at h
  split at h
  next => cases h
  next read hread =>
    rw [checked] at h
    split at h
    next => rw [hread, Except.ok.inj h]
    next => cases h

/-- Laying the file of the project over the settings of the user's file gives the same as merging
the two files and reading what comes of it. -/
theorem load_eq_overlay (file : Path) (written : String)
    (huser : t.text? userFile = some user) (hwritten : t.read here written = .ok user)
    (hfile : projectFile? t here = some file) (hproject : t.text? file = some project)
    (hread : Toml.readDocument user = some entries) (htables : HasTables entries)
    (hchoices : HasPlainChoices entries) (haccepted : loadFrom t here written = .ok s) :
    load t userFile here = s.overlay project := by
  have hproper := Toml.isProper_of_readDocument hread
  rw [loadFrom_eq_ofLayers hwritten, ofLayers_singleton hread] at haccepted
  -- The document of the user and the one that its settings are written as hold the same settings.
  have hheld := isHeld_of_decode? hproper htables hchoices (decode?_of_ofEntries haccepted)
  obtain ⟨base, hbase⟩ := hheld.exists_encode?
  have hheld' := isHeld_of_encode? hheld.isOrdered hbase
  rw [load_eq_ofLayers huser hfile hproject, ofLayers_pair hread]
  cases hoverlay : Toml.readDocument project with
  | none => rw [overlay, hbase, readEntries, hoverlay]; rfl
  | some overlay =>
    have hsame := hheld.decode?_mergeEntries_eq hheld' (Toml.isProper_of_readDocument hoverlay)
    rw [overlay_eq_ofEntries hbase hoverlay]
    show ofEntries .layered (mergeEntries entries overlay) = _
    rw [ofEntries, ofEntries, hsame]

end Files

/-- The user has a word and a limit, and the project another word. -/
theorem load_eq_overlay_words :
    load ⟨[(["user"], "subject.max_length = 50\nspell.custom_words.a = \"b\""),
        (["cklint.toml"], "spell.custom_words.c = \"d\"")], [], false⟩ ["user"] [] =
      ({ subject := { maxLength := 50 }, spell := { customWords := ⟨[("a", "b")]⟩ } } :
        Settings).overlay "spell.custom_words.c = \"d\"" := by
  have hread : Toml.readDocument "subject.max_length = 50\nspell.custom_words.a = \"b\"" =
      some [("subject", .table [("max_length", .integer 50)]),
        ("spell", .table [("custom_words", .table [("a", .text "b")])])] := by cbv
  refine load_eq_overlay ["cklint.toml"] "user" rfl rfl rfl rfl hread ?_ ?_ ?_
  · simp [HasTables, sections, lookup_cons]
  · simp [HasPlainChoices, choicePaths, Value.at?, lookup_cons]
  · cbv

end CommitLint.Settings
