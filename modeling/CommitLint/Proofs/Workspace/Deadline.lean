import CommitLint.Proofs.Settings.Locate
import CommitLint.Proofs.Toml.Path
import CommitLint.Proofs.Workspace.Verdict

/-!
# Settings and the clock

The limit of time in settings that are accepted is a number that a document can hold, which is at
most the last reading of the clock (`Settings.IsAccepted.timeoutSecs_le`): each of the documents is
proper, what is merged from proper documents is proper, and the numbers in a proper value have 64
bits with a sign. But nothing keeps the limit from being too long to be added to the present.

So a limit fits a clock that has just begun, and for any later reading there are settings that are
accepted with a limit that does not fit. Nothing else can keep a run from ending
(`Settings.deadline?_of_isAccepted`).
-/

namespace CommitLint

namespace Settings

open Toml (Value mergeEntries mergeOver)

variable {m : Manner} {entries : List (String × Value)} {s : Settings}

/-- Settings that are loaded without a failure: from one document, for work in a directory, from a
named file, or by laying a document over any settings. -/
inductive IsAccepted (s : Settings) : Prop
  | parsed {text : String} : parse text = .ok s → IsAccepted s
  | loaded {t : FileTree} {userFile here : Path} : load t userFile here = .ok s → IsAccepted s
  | named {t : FileTree} {here : Path} {written : String} : loadFrom t here written = .ok s →
      IsAccepted s
  | overlaid {base : Settings} {text : String} : base.overlay text = .ok s → IsAccepted s

/-! ### Numbers in proper values -/

theorem isProper_seen {v : Value} (h : v.IsProper) : (seen m v).IsProper := by
  cases h with
  | dateTime s =>
    cases m with
    | direct => exact .table (by simp [Entries.HasDistinctKeys]) (by simp [Value.IsProper.text])
    | layered => exact .text s
  | text s => exact .text s
  | integer hlow hhigh => exact .integer hlow hhigh
  | float digits => exact .float digits
  | boolean b => exact .boolean b
  | array hitems => exact .array hitems
  | table hkeys hvalues => exact .table hkeys hvalues

/-- The fields of a section in a proper value are proper. -/
theorem isProper_of_sectionEntries? {names : List String} {v : Value} (hv : v.IsProper)
    (h : sectionEntries? m names v = some entries) : ∀ e ∈ entries, e.2.IsProper := by
  have hseen : (seen m v).IsProper := isProper_seen hv
  rw [sectionEntries?] at h
  generalize seen m v = w at h hseen
  split at h
  · cases h
    exact (Value.isProper_table_iff.mp hseen).2
  · split at h
    · cases h
    · cases h
      cases hseen with
      | array hitems => exact fun e he => hitems _ (List.of_mem_zip he).2
  · cases h

/-- A number that is read from a proper value has 64 bits with a sign. -/
theorem le_lastSecond_of_fieldOr {name : String} {default n : Nat}
    (hentries : ∀ e ∈ entries, e.2.IsProper) (hdefault : default ≤ lastSecond)
    (h : fieldOr entries name naturalOf? default = some n) : n ≤ lastSecond := by
  rw [fieldOr] at h
  split at h
  · exact Option.some.inj h ▸ hdefault
  · rename_i v hlookup
    have hv : v = .integer n := Kind.naturalOf?_eq_some_iff.mp h
    have hproper : v.IsProper := hentries _ (Entries.mem_of_lookup_eq_some hlookup)
    rw [hv] at hproper
    obtain _ | ⟨-, hhigh⟩ := hproper
    rw [lastSecond]
    omega

theorem Repository.timeoutSecs_le_of_decode? {v : Value} {r : Settings.Repository}
    (hv : v.IsProper) (h : Repository.decode? m v = some r) : r.timeoutSecs ≤ lastSecond := by
  simp only [Repository.decode?, bind, Option.bind_eq_some_iff] at h
  obtain ⟨fields, hfields, _, -, _, -, _, -, limit, hlimit, heq⟩ := h
  rw [← Option.some.inj heq]
  exact le_lastSecond_of_fieldOr (isProper_of_sectionEntries? hv hfields) (by decide) hlimit

theorem read_repository_of_decode? (h : decode? m entries = some s) :
    fieldOr entries "repository" (Repository.decode? m) {} = some s.repository := by
  -- The section is the eleventh one that is read.
  iterate 10 obtain ⟨_, -, h⟩ := Option.bind_eq_some_iff.mp h
  obtain ⟨r, hr, h⟩ := Option.bind_eq_some_iff.mp h
  obtain ⟨_, -, h⟩ := Option.bind_eq_some_iff.mp h
  rw [← Option.some.inj h, hr]

theorem timeoutSecs_le_of_ofEntries
    (hproper : ∀ v, entries.lookup "repository" = some v → v.IsProper)
    (h : ofEntries m entries = .ok s) : s.repository.timeoutSecs ≤ lastSecond := by
  have hread := read_repository_of_decode? (decode?_of_ofEntries h)
  rw [fieldOr] at hread
  split at hread
  · have hdefault : ({} : Settings.Repository).timeoutSecs ≤ lastSecond := by decide
    exact Option.some.inj hread ▸ hdefault
  · rename_i v hlookup
    exact Repository.timeoutSecs_le_of_decode? (hproper v hlookup) hread

/-! ### Documents -/

theorem isProper_of_readEntries {text : String} (h : readEntries text = .ok entries) :
    (Value.table entries).IsProper := by
  rw [readEntries] at h
  split at h
  · cases h
  · rename_i read hread
    cases h
    exact Toml.isProper_of_readDocument hread

theorem isProper_of_mapM_readEntries {texts : List String} {layers : List (List (String × Value))}
    (h : texts.mapM readEntries = .ok layers) : ∀ l ∈ layers, (Value.table l).IsProper := by
  induction texts generalizing layers with
  | nil =>
    cases h
    exact List.forall_mem_nil _
  | cons text texts ih =>
    rw [List.mapM_cons] at h
    obtain ⟨first, hfirst, h⟩ := bind_eq_ok_iff.mp h
    obtain ⟨more, hmore, h⟩ := bind_eq_ok_iff.mp h
    cases h
    exact List.forall_mem_cons.mpr ⟨isProper_of_readEntries hfirst, ih hmore⟩

/-- Documents over a proper one are proper. -/
theorem isProper_foldl_mergeEntries {layers : List (List (String × Value))}
    (hentries : (Value.table entries).IsProper) (h : ∀ l ∈ layers, (Value.table l).IsProper) :
    (Value.table (layers.foldl mergeEntries entries)).IsProper := by
  induction layers generalizing entries with
  | nil => exact hentries
  | cons l layers ih =>
    obtain ⟨hl, h⟩ := List.forall_mem_cons.mp h
    have hmerged : (Toml.merge (.table entries) (.table l)).IsProper := hentries.merge hl
    rw [Toml.merge] at hmerged
    exact ih hmerged h

theorem timeoutSecs_le_of_ofLayers {texts : List String} (h : ofLayers texts = .ok s) :
    s.repository.timeoutSecs ≤ lastSecond := by
  obtain ⟨layers, hlayers, h⟩ := bind_eq_ok_iff.mp h
  have hnil : (Value.table []).IsProper :=
    .table Entries.hasDistinctKeys_nil (List.forall_mem_nil _)
  have hproper := isProper_foldl_mergeEntries hnil (isProper_of_mapM_readEntries hlayers)
  exact timeoutSecs_le_of_ofEntries (fun _ => hproper.of_lookup) h

/-- The section of the repository is written as a proper value, whatever the other settings are. -/
theorem isProper_repository_of_encode? (h : s.encode? = some entries) {v : Value}
    (hv : entries.lookup "repository" = some v) : v.IsProper := by
  simp only [encode?, bind, Option.bind_eq_some_iff] at h
  obtain ⟨_, -, _, -, _, -, ahead, hahead, limit, hlimit, heq⟩ := h
  obtain ⟨fields, hlookup, hfields⟩ : ∃ fields,
      entries.lookup "repository" = some (.table fields) ∧ (Value.table fields).IsProper := by
    rw [← Option.some.inj heq]
    refine ⟨_, rfl, .table (by simp [Entries.HasDistinctKeys]) ?_⟩
    simp only [List.forall_mem_cons]
    exact ⟨.text _, Kind.count.isProper_of_write? trivial hahead, .boolean _,
      Kind.count.isProper_of_write? trivial hlimit, List.forall_mem_nil _⟩
  exact Option.some.inj (hlookup.symm.trans hv) ▸ hfields

theorem timeoutSecs_le_of_overlay {base : Settings} {text : String}
    (h : base.overlay text = .ok s) : s.repository.timeoutSecs ≤ lastSecond := by
  rw [overlay] at h
  split at h
  · cases h
  rename_i old hold
  obtain ⟨new, hnew, h⟩ := bind_eq_ok_iff.mp h
  have hproper := isProper_of_readEntries hnew
  refine timeoutSecs_le_of_ofEntries (fun v hv => ?_) h
  rw [Toml.lookup_mergeEntries (Value.isProper_table_iff.mp hproper).1, Option.or_eq_some_iff,
    Option.map_eq_some_iff] at hv
  rcases hv with ⟨w, hw, rfl⟩ | ⟨-, hv⟩
  · have hw : w.IsProper := hproper.of_lookup hw
    cases hu : old.lookup "repository" with
    | none => exact hw
    | some u => exact (isProper_repository_of_encode? hold hu).merge hw
  · exact isProper_repository_of_encode? hold hv

theorem IsAccepted.timeoutSecs_le (h : s.IsAccepted) : s.repository.timeoutSecs ≤ lastSecond := by
  cases h with
  | parsed h =>
    obtain ⟨entries, hentries, h⟩ := bind_eq_ok_iff.mp h
    have hproper := isProper_of_readEntries hentries
    exact timeoutSecs_le_of_ofEntries (fun _ => hproper.of_lookup) h
  | loaded h =>
    obtain ⟨texts, -, h⟩ := bind_eq_ok_iff.mp h
    exact timeoutSecs_le_of_ofLayers h
  | named h =>
    rw [loadFrom] at h
    split at h
    · split at h
      · exact timeoutSecs_le_of_ofLayers h
      · cases h
    · cases h
  | overlaid h => exact timeoutSecs_le_of_overlay h

end Settings

/-! ### Runs -/

namespace Workspace

variable {w : Workspace} {line : CommandLine} {s : Settings}

/-- Once the settings are loaded, nothing comes only of a validation of commits that are loaded too,
with a limit that does not fit the clock. -/
theorem run?_eq_none_iff (hhashes : w.HasHexHashes) (hsettings : w.settings line = .ok s) :
    w.run? line = none ↔ ∃ o job, line.effectiveCommand = .validate o ∧
      w.job (withRules s o) o = .ok job ∧ ¬s.repository.FitsClock (w.clock .start) := by
  cases hcommand : line.effectiveCommand with
  | validate o =>
    rw [run?_eq_validate? hsettings hcommand]
    constructor
    · intro hnone
      cases hjob : w.job (withRules s o) o with
      | error failure =>
        rw [validate?, hjob] at hnone
        cases hnone
      | ok job =>
        refine ⟨o, job, rfl, hjob, fun hfits => ?_⟩
        have hselects : w.Selects s o _ _ := selects_iff.mpr ⟨job, hjob, rfl, rfl⟩
        obtain ⟨deadline, hdeadline⟩ := hfits.exists_deadline?
        obtain ⟨_, -, hsome⟩ := hselects.exists_validate? hhashes hdeadline line
        rw [hsome] at hnone
        cases hnone
    · rintro ⟨o', job, heq, hjob, hfits⟩
      cases heq
      have hselects : w.Selects s o _ _ := selects_iff.mpr ⟨job, hjob, rfl, rfl⟩
      exact hselects.validate?_eq_none hfits line
  | _ =>
    -- No other command has a deadline.
    refine iff_of_false ?_ (by simp)
    rw [run?, hsettings]
    simp [hcommand]

end Workspace

namespace Settings

theorem Repository.deadline?_eq_none_iff {settings : Settings.Repository} {now : Nat} :
    settings.deadline? now = none ↔ ¬settings.FitsClock now := by
  refine ⟨fun h hfits => ?_, deadline?_eq_none⟩
  obtain ⟨d, hd⟩ := hfits.exists_deadline?
  rw [hd] at h
  cases h

/-- The limit in settings that are accepted can be added to the first reading of the clock, and to
any other one exactly if the sum is a reading. Otherwise there is no deadline for a run that starts
then, and this is the only reason why nothing comes of a command whose settings are loaded, namely
of a validation whose commits are. -/
theorem deadline?_of_isAccepted {s : Settings} (h : s.IsAccepted) (now : Nat) :
    s.repository.timeoutSecs ≤ lastSecond ∧
      (s.repository.deadline? now = none ↔
        0 < s.repository.timeoutSecs ∧ lastSecond < now + s.repository.timeoutSecs) ∧
      ∀ (w : Workspace) (line : CommandLine), w.HasHexHashes → w.clock .start = now →
        w.settings line = .ok s →
        (w.run? line = none ↔ ∃ o job, line.effectiveCommand = .validate o ∧
          w.job (Workspace.withRules s o) o = .ok job ∧ s.repository.deadline? now = none) := by
  refine ⟨h.timeoutSecs_le, ?_, fun w line hhashes hnow hsettings => ?_⟩
  · rw [Repository.deadline?_eq_none_iff, Repository.FitsClock, not_or, Nat.not_le,
      Nat.pos_iff_ne_zero]
  · subst hnow
    simp only [Workspace.run?_eq_none_iff hhashes hsettings, Repository.deadline?_eq_none_iff]

/-- A limit of a minute, early and eight seconds before the end of the clock. -/
theorem deadline?_of_isAccepted_minute :
    ∃ s, parse "[repository]\ntimeout_secs = 60\n" = .ok s ∧
      (∃ d, s.repository.deadline? 1 = some d) ∧
      s.repository.deadline? (lastSecond - 8) = none := by
  let s : Settings := { repository := { timeoutSecs := 60 } }
  have hparse : parse "[repository]\ntimeout_secs = 60\n" = .ok s := by cbv
  have haccepted : s.IsAccepted := .parsed hparse
  have hearly := (deadline?_of_isAccepted haccepted 1).2.1
  have hlate := (deadline?_of_isAccepted haccepted (lastSecond - 8)).2.1
  exact ⟨s, hparse, Option.ne_none_iff_exists'.mp (mt hearly.mp (by decide)),
    hlate.mpr (by decide)⟩

/-- The longest limit that can be written is accepted, and too long once the clock has gone on. -/
theorem exists_isAccepted_deadline?_eq_none {now : Nat} (hnow : 0 < now) :
    ∃ s : Settings, s.IsAccepted ∧ s.repository.deadline? now = none := by
  let s : Settings := { repository := { timeoutSecs := lastSecond } }
  have hparse : parse "[repository]\ntimeout_secs = 9223372036854775807\n" = .ok s := by cbv
  refine ⟨s, .parsed hparse, Repository.deadline?_eq_none ?_⟩
  exact not_or.mpr ⟨by decide, Nat.not_le.mpr (Nat.lt_add_of_pos_left hnow)⟩

/-- So accepted settings cannot always be run. -/
theorem not_forall_exists_deadline? :
    ¬∀ (s : Settings) (now : Nat), s.IsAccepted → 0 < now → now ≤ lastSecond →
      ∃ d, s.repository.deadline? now = some d := by
  intro h
  obtain ⟨s, haccepted, hnone⟩ := exists_isAccepted_deadline?_eq_none Nat.one_pos
  obtain ⟨d, hd⟩ := h s 1 haccepted Nat.one_pos (by decide)
  rw [hnone] at hd
  cases hd

end Settings

end CommitLint
