import CommitLint.Proofs.Settings.Kind

/-!
# The schema of the settings

The settings as data: twelve sections (`sections`), each with its fields, and of each field its
name, its kind and its place. The fields are all there is to a section (`Section.ext`), they can
have any values (`Section.exists_record`), and a section is read field by field
(`Section.decode?_table_eq_some_iff`), just as the settings are read section by section
(`decode?_eq_some_iff`). They are written field by field too (`lookup_of_encode?`), which only a
number that is too large can keep them from (`exists_encode?_iff_lt`). So what holds of all settings
is proved once, for a section of any fields.
-/

namespace CommitLint.Settings

open Toml (Value)
open Entries

@[simp]
theorem sectionEntries?_table (m : Manner) (names : List String) (entries : List (String × Value)) :
    sectionEntries? m names (.table entries) = some entries := rfl

/-- A field of a section: its name in documents, its kind, and its place. -/
structure Field (σ : Type) where
  name : String
  kind : Kind
  get : σ → kind.Carrier

/-- The value of a field in a table, or that of a default. -/
def Field.read? {σ : Type} (f : Field σ) (entries : List (String × Value)) (default : σ) :
    Option f.kind.Carrier := fieldOr entries f.name f.kind.decode? (f.get default)

/-- A section: its name in documents, its place in the settings, and its fields. -/
structure Section where
  Carrier : Type
  name : String
  get : Settings → Carrier
  decode? : Value → Option Carrier
  default : Carrier
  fields : List (Field Carrier)
  ext {r r' : Carrier} (h : ∀ f ∈ fields, f.get r = f.get r') : r = r'
  exists_record {P : (f : Field Carrier) → f.kind.Carrier → Prop}
    (h : ∀ f ∈ fields, ∃ a, P f a) : ∃ r, ∀ f ∈ fields, P f (f.get r)
  decode?_table_eq_some_iff {entries : List (String × Value)} {r : Carrier} :
    decode? (.table entries) = some r ↔ ∀ f ∈ fields, f.read? entries default = some (f.get r)
  lay_default {f : Field Carrier} (hf : f ∈ fields) {v : Value} {a : f.kind.Carrier}
    (h : f.kind.Means v a) : f.kind.lay (f.get default) a = a

/-! ### The sections -/

namespace Section

/-- The section of rules. -/
@[reducible]
def rules : Section where
  Carrier := RuleLists
  name := "rules"
  get := Settings.rules
  decode? := RuleLists.decode? .layered
  default := {}
  fields := [⟨"enabled", .texts, (·.enabled)⟩, ⟨"disabled", .texts, (·.disabled)⟩]
  ext {r r'} h := by
    cases r
    cases r'
    simpa using h
  exists_record h := by
    simp only [List.forall_mem_cons] at h
    obtain ⟨⟨a, ha⟩, ⟨b, hb⟩, -⟩ := h
    exact ⟨⟨a, b⟩, by simp [ha, hb]⟩
  decode?_table_eq_some_iff {entries r} := by
    cases r
    simp [RuleLists.decode?, Field.read?, Option.bind_eq_some_iff]
  lay_default hf _ _ _ := by
    simp only [List.mem_cons, List.not_mem_nil, or_false] at hf
    rcases hf with rfl | rfl <;> rfl

/-- The section of the subject. -/
@[reducible]
def subject : Section where
  Carrier := SubjectLine
  name := "subject"
  get := Settings.subject
  decode? := SubjectLine.decode? .layered
  default := {}
  fields :=
    [⟨"max_length", .count, (·.maxLength)⟩, ⟨"case", .letterCase, (·.letterCase)⟩,
      ⟨"disallowed_suffixes", .text, (·.disallowedSuffixes)⟩]
  ext {r r'} h := by
    cases r
    cases r'
    simpa using h
  exists_record h := by
    simp only [List.forall_mem_cons] at h
    obtain ⟨⟨a, ha⟩, ⟨b, hb⟩, ⟨c, hc⟩, -⟩ := h
    exact ⟨⟨a, b, c⟩, by simp [ha, hb, hc]⟩
  decode?_table_eq_some_iff {entries r} := by
    cases r
    simp [SubjectLine.decode?, Field.read?, Option.bind_eq_some_iff]
  lay_default hf _ _ _ := by
    simp only [List.mem_cons, List.not_mem_nil, or_false] at hf
    rcases hf with rfl | rfl | rfl <;> rfl

/-- The section of conventional subjects. -/
@[reducible]
def conventional : Section where
  Carrier := Conventional
  name := "conventional"
  get := Settings.conventional
  decode? := Conventional.decode? .layered
  default := {}
  fields :=
    [⟨"types", .texts, (·.types)⟩, ⟨"scopes", .texts, (·.scopes)⟩,
      ⟨"max_description_length", .count, (·.maxDescriptionLength)⟩,
      ⟨"allow_breaking", .truth, (·.allowBreaking)⟩, ⟨"require_scope", .truth, (·.requireScope)⟩]
  ext {r r'} h := by
    cases r
    cases r'
    simpa using h
  exists_record h := by
    simp only [List.forall_mem_cons] at h
    obtain ⟨⟨a, ha⟩, ⟨b, hb⟩, ⟨c, hc⟩, ⟨d, hd⟩, ⟨e, he⟩, -⟩ := h
    exact ⟨⟨a, b, c, d, e⟩, by simp [ha, hb, hc, hd, he]⟩
  decode?_table_eq_some_iff {entries r} := by
    cases r
    simp [Conventional.decode?, Field.read?, Option.bind_eq_some_iff, -Bool.exists_bool]
  lay_default hf _ _ _ := by
    simp only [List.mem_cons, List.not_mem_nil, or_false] at hf
    rcases hf with rfl | rfl | rfl | rfl | rfl <;> rfl

/-- The section of the body. -/
@[reducible]
def body : Section where
  Carrier := Body
  name := "body"
  get := Settings.body
  decode? := Body.decode? .layered
  default := {}
  fields :=
    [⟨"required", .truth, (·.required)⟩, ⟨"min_length", .count, (·.minLength)⟩,
      ⟨"allow_signoff_only", .truth, (·.allowSignoffOnly)⟩]
  ext {r r'} h := by
    cases r
    cases r'
    simpa using h
  exists_record h := by
    simp only [List.forall_mem_cons] at h
    obtain ⟨⟨a, ha⟩, ⟨b, hb⟩, ⟨c, hc⟩, -⟩ := h
    exact ⟨⟨a, b, c⟩, by simp [ha, hb, hc]⟩
  decode?_table_eq_some_iff {entries r} := by
    cases r
    simp [Body.decode?, Field.read?, Option.bind_eq_some_iff, -Bool.exists_bool]
  lay_default hf _ _ _ := by
    simp only [List.mem_cons, List.not_mem_nil, or_false] at hf
    rcases hf with rfl | rfl | rfl <;> rfl

/-- The section of sign-offs. -/
@[reducible]
def signoff : Section where
  Carrier := SignOff
  name := "signoff"
  get := Settings.signoff
  decode? := SignOff.decode? .layered
  default := {}
  fields := [⟨"allow_multiple", .truth, (·.allowMultiple)⟩]
  ext {r r'} h := by
    cases r
    cases r'
    simpa using h
  exists_record h := by
    simp only [List.forall_mem_cons] at h
    obtain ⟨⟨a, ha⟩, -⟩ := h
    exact ⟨⟨a⟩, by simp [ha]⟩
  decode?_table_eq_some_iff {entries r} := by
    cases r
    simp [SignOff.decode?, Field.read?, Option.bind_eq_some_iff, -Bool.exists_bool]
  lay_default hf _ _ _ := by
    obtain rfl := List.mem_singleton.mp hf
    rfl

/-- The section of signatures. -/
@[reducible]
def signature : Section where
  Carrier := Signature
  name := "signature"
  get := Settings.signature
  decode? := Signature.decode? .layered
  default := {}
  fields := [⟨"allowed_types", .texts, (·.allowedTypes)⟩]
  ext {r r'} h := by
    cases r
    cases r'
    simpa using h
  exists_record h := by
    simp only [List.forall_mem_cons] at h
    obtain ⟨⟨a, ha⟩, -⟩ := h
    exact ⟨⟨a⟩, by simp [ha]⟩
  decode?_table_eq_some_iff {entries r} := by
    cases r
    simp [Signature.decode?, Field.read?, Option.bind_eq_some_iff]
  lay_default hf _ _ _ := by
    obtain rfl := List.mem_singleton.mp hf
    rfl

/-- The section of signers. -/
@[reducible]
def identity : Section where
  Carrier := Identity
  name := "identity"
  get := Settings.identity
  decode? := Identity.decode? .layered
  default := {}
  fields := [⟨"allowed_signers", .texts, (·.allowedSigners)⟩]
  ext {r r'} h := by
    cases r
    cases r'
    simpa using h
  exists_record h := by
    simp only [List.forall_mem_cons] at h
    obtain ⟨⟨a, ha⟩, -⟩ := h
    exact ⟨⟨a⟩, by simp [ha]⟩
  decode?_table_eq_some_iff {entries r} := by
    cases r
    simp [Identity.decode?, Field.read?, Option.bind_eq_some_iff]
  lay_default hf _ _ _ := by
    obtain rfl := List.mem_singleton.mp hf
    rfl

/-- The section of issues. -/
@[reducible]
def jira : Section where
  Carrier := Jira
  name := "jira"
  get := Settings.jira
  decode? := Jira.decode? .layered
  default := {}
  fields := [⟨"projects", .texts, (·.projects)⟩, ⟨"check_body", .truth, (·.checkBody)⟩]
  ext {r r'} h := by
    cases r
    cases r'
    simpa using h
  exists_record h := by
    simp only [List.forall_mem_cons] at h
    obtain ⟨⟨a, ha⟩, ⟨b, hb⟩, -⟩ := h
    exact ⟨⟨a, b⟩, by simp [ha, hb]⟩
  decode?_table_eq_some_iff {entries r} := by
    cases r
    simp [Jira.decode?, Field.read?, Option.bind_eq_some_iff, -Bool.exists_bool]
  lay_default hf _ _ _ := by
    simp only [List.mem_cons, List.not_mem_nil, or_false] at hf
    rcases hf with rfl | rfl <;> rfl

/-- The section of the imperative mood. -/
@[reducible]
def imperative : Section where
  Carrier := Imperative
  name := "imperative"
  get := Settings.imperative
  decode? := Imperative.decode? .layered
  default := {}
  fields :=
    [⟨"base_forms_ed", .texts, (·.baseFormsEd)⟩, ⟨"base_forms_s", .texts, (·.baseFormsS)⟩,
      ⟨"base_forms_ing", .texts, (·.baseFormsIng)⟩, ⟨"non_verbs", .texts, (·.nonVerbs)⟩]
  ext {r r'} h := by
    cases r
    cases r'
    simpa using h
  exists_record h := by
    simp only [List.forall_mem_cons] at h
    obtain ⟨⟨a, ha⟩, ⟨b, hb⟩, ⟨c, hc⟩, ⟨d, hd⟩, -⟩ := h
    exact ⟨⟨a, b, c, d⟩, by simp [ha, hb, hc, hd]⟩
  decode?_table_eq_some_iff {entries r} := by
    cases r
    simp [Imperative.decode?, Field.read?, Option.bind_eq_some_iff]
  lay_default hf _ _ _ := by
    simp only [List.mem_cons, List.not_mem_nil, or_false] at hf
    rcases hf with rfl | rfl | rfl | rfl <;> rfl

/-- The section of spelling. -/
@[reducible]
def spell : Section where
  Carrier := Spelling
  name := "spell"
  get := Settings.spell
  decode? := Spelling.decode? .layered
  default := {}
  fields :=
    [⟨"locale", .locale, (·.locale)⟩, ⟨"ignore_words", .texts, (·.ignoreWords)⟩,
      ⟨"custom_words", .words, (·.customWords)⟩]
  ext {r r'} h := by
    cases r
    cases r'
    simpa using h
  exists_record h := by
    simp only [List.forall_mem_cons] at h
    obtain ⟨⟨a, ha⟩, ⟨b, hb⟩, ⟨c, hc⟩, -⟩ := h
    exact ⟨⟨a, b, c⟩, by simp [ha, hb, hc]⟩
  decode?_table_eq_some_iff {entries r} := by
    cases r
    simp [Spelling.decode?, Field.read?, Option.bind_eq_some_iff]
  lay_default hf _ _ h := by
    simp only [List.mem_cons, List.not_mem_nil, or_false] at hf
    rcases hf with rfl | rfl | rfl
    · rfl
    · rfl
    · exact Fields.empty_override (Kind.words.isOrdered_of_means h)

/-- The section of the repository. -/
@[reducible]
def repository : Section where
  Carrier := Repository
  name := "repository"
  get := Settings.repository
  decode? := Repository.decode? .layered
  default := {}
  fields :=
    [⟨"reference_branch", .text, (·.referenceBranch)⟩,
      ⟨"max_commits_ahead", .count, (·.maxCommitsAhead)⟩,
      ⟨"skip_merge_commits", .truth, (·.skipMergeCommits)⟩,
      ⟨"timeout_secs", .count, (·.timeoutSecs)⟩]
  ext {r r'} h := by
    cases r
    cases r'
    simpa using h
  exists_record h := by
    simp only [List.forall_mem_cons] at h
    obtain ⟨⟨a, ha⟩, ⟨b, hb⟩, ⟨c, hc⟩, ⟨d, hd⟩, -⟩ := h
    exact ⟨⟨a, b, c, d⟩, by simp [ha, hb, hc, hd]⟩
  decode?_table_eq_some_iff {entries r} := by
    cases r
    simp [Repository.decode?, Field.read?, Option.bind_eq_some_iff, -Bool.exists_bool]
  lay_default hf _ _ _ := by
    simp only [List.mem_cons, List.not_mem_nil, or_false] at hf
    rcases hf with rfl | rfl | rfl | rfl <;> rfl

/-- The section of reports. -/
@[reducible]
def output : Section where
  Carrier := Output
  name := "output"
  get := Settings.output
  decode? := Output.decode? .layered
  default := {}
  fields :=
    [⟨"format", .reportFormat, (·.format)⟩, ⟨"verbose", .truth, (·.verbose)⟩,
      ⟨"color", .truth, (·.color)⟩]
  ext {r r'} h := by
    cases r
    cases r'
    simpa using h
  exists_record h := by
    simp only [List.forall_mem_cons] at h
    obtain ⟨⟨a, ha⟩, ⟨b, hb⟩, ⟨c, hc⟩, -⟩ := h
    exact ⟨⟨a, b, c⟩, by simp [ha, hb, hc]⟩
  decode?_table_eq_some_iff {entries r} := by
    cases r
    simp [Output.decode?, Field.read?, Option.bind_eq_some_iff, -Bool.exists_bool]
  lay_default hf _ _ _ := by
    simp only [List.mem_cons, List.not_mem_nil, or_false] at hf
    rcases hf with rfl | rfl | rfl <;> rfl

/-- The section in a document, or its default. -/
def read? (S : Section) (entries : List (String × Value)) : Option S.Carrier :=
  fieldOr entries S.name S.decode? S.default

end Section

/-- The sections, in the order in which they are written. -/
def sections : List Section :=
  [.rules, .subject, .conventional, .body, .signoff, .signature, .identity, .jira, .imperative,
    .spell, .repository, .output]

/-! ### Reading -/

theorem decode?_eq_some_iff {entries : List (String × Value)} {s : Settings} :
    decode? .layered entries = some s ↔ ∀ S ∈ sections, S.read? entries = some (S.get s) := by
  cases s
  simp [decode?, sections, Section.read?, Option.bind_eq_some_iff]

/-- Settings can have any sections. -/
theorem exists_settings {P : (S : Section) → S.Carrier → Prop} (h : ∀ S ∈ sections, ∃ r, P S r) :
    ∃ s, ∀ S ∈ sections, P S (S.get s) := by
  simp only [sections, List.forall_mem_cons] at h ⊢
  obtain ⟨⟨rules, hrules⟩, ⟨subject, hsubject⟩, ⟨conventional, hconventional⟩, ⟨body, hbody⟩,
    ⟨signoff, hsignoff⟩, ⟨signature, hsignature⟩, ⟨identity, hidentity⟩, ⟨jira, hjira⟩,
    ⟨imperative, himperative⟩, ⟨spell, hspell⟩, ⟨repository, hrepository⟩, ⟨output, houtput⟩, -⟩ :=
    h
  exact ⟨⟨rules, subject, conventional, body, signoff, signature, identity, jira, imperative, spell,
    repository, output⟩, hrules, hsubject, hconventional, hbody, hsignoff, hsignature, hidentity,
    hjira, himperative, hspell, hrepository, houtput, fun _ h => absurd h List.not_mem_nil⟩

/-! ### Writing -/

/-- The numbers in some settings. -/
def numbers (s : Settings) : List Nat :=
  [s.subject.maxLength, s.conventional.maxDescriptionLength, s.body.minLength,
    s.repository.maxCommitsAhead, s.repository.timeoutSecs]

theorem lookup_of_encode? {s : Settings} {entries : List (String × Value)}
    (h : s.encode? = some entries) :
    ∀ S ∈ sections, ∃ fields, entries.lookup S.name = some (.table fields) ∧
      ∀ f ∈ S.fields, fields.lookup f.name = f.kind.write? (f.get (S.get s)) := by
  simp only [encode?, bind, Option.bind_eq_some_iff] at h
  obtain ⟨_, hlength, _, hdescription, _, hbody, _, hahead, _, htimeout, heq⟩ := h
  obtain rfl := Option.some.inj heq
  clear heq
  simp only [sections, List.forall_mem_cons]
  refine ⟨⟨_, rfl, ?_⟩, ⟨_, rfl, ?_⟩, ⟨_, rfl, ?_⟩, ⟨_, rfl, ?_⟩, ⟨_, rfl, ?_⟩, ⟨_, rfl, ?_⟩,
    ⟨_, rfl, ?_⟩, ⟨_, rfl, ?_⟩, ⟨_, rfl, ?_⟩, ⟨_, rfl, ?_⟩, ⟨_, rfl, ?_⟩, ⟨_, rfl, ?_⟩,
    fun _ h => absurd h List.not_mem_nil⟩
  all_goals simp [lookup_cons, hlength, hdescription, hbody, hahead, htimeout]

/-- Settings can be written if each of their fields can. -/
theorem exists_encode?_iff {s : Settings} :
    (∃ entries, s.encode? = some entries) ↔
      ∀ S ∈ sections, ∀ f ∈ S.fields, ∃ v, f.kind.write? (f.get (S.get s)) = some v := by
  simp [encode?, sections, Option.bind_eq_some_iff]

/-- Only a number that is too large can keep settings from being written. -/
theorem exists_encode?_iff_lt {s : Settings} :
    (∃ entries, s.encode? = some entries) ↔ ∀ n ∈ s.numbers, n < 0x8000000000000000 := by
  simp [encode?, numbers, Option.bind_eq_some_iff, Kind.naturalValue?_eq_some_iff]

end CommitLint.Settings
