import CommitLint.Settings.Decode

/-!
# Settings as TOML

All settings as a document. Numbers are written as integers of 64 bits with a sign, so one that is
larger cannot be written.
-/

namespace CommitLint.Settings

open Toml (Value)

/-- A number as a value, if it can be written. -/
def naturalValue? (n : Nat) : Option Value :=
  if n < 0x8000000000000000 then some (.integer n) else none

/-- A list of texts as a value. -/
def textsValue (texts : List String) : Value := .array (texts.map .text)

/-- The name of a choice as a value. -/
def choiceValue {α : Type} [BEq α] (choices : List (String × α)) (a : α) : Value :=
  .text (((choices.find? (·.2 == a)).map (·.1)).getD "")

/-- Texts by name as a value. -/
def fieldsValue (fields : Fields) : Value :=
  .table (fields.entries.map fun (name, s) => (name, .text s))

/-- The entries of a document with all settings. -/
def encode? (s : Settings) : Option (List (String × Value)) := do
  some
    [("rules",
        .table
          [("enabled", textsValue s.rules.enabled), ("disabled", textsValue s.rules.disabled)]),
      ("subject",
        .table
          [("max_length", ← naturalValue? s.subject.maxLength),
            ("case", choiceValue letterCases s.subject.letterCase),
            ("disallowed_suffixes", .text s.subject.disallowedSuffixes)]),
      ("conventional",
        .table
          [("types", textsValue s.conventional.types),
            ("scopes", textsValue s.conventional.scopes),
            ("max_description_length", ← naturalValue? s.conventional.maxDescriptionLength),
            ("allow_breaking", .boolean s.conventional.allowBreaking),
            ("require_scope", .boolean s.conventional.requireScope)]),
      ("body",
        .table
          [("required", .boolean s.body.required),
            ("min_length", ← naturalValue? s.body.minLength),
            ("allow_signoff_only", .boolean s.body.allowSignoffOnly)]),
      ("signoff", .table [("allow_multiple", .boolean s.signoff.allowMultiple)]),
      ("signature", .table [("allowed_types", textsValue s.signature.allowedTypes)]),
      ("identity", .table [("allowed_signers", textsValue s.identity.allowedSigners)]),
      ("jira",
        .table
          [("projects", textsValue s.jira.projects), ("check_body", .boolean s.jira.checkBody)]),
      ("imperative",
        .table
          [("base_forms_ed", textsValue s.imperative.baseFormsEd),
            ("base_forms_s", textsValue s.imperative.baseFormsS),
            ("base_forms_ing", textsValue s.imperative.baseFormsIng),
            ("non_verbs", textsValue s.imperative.nonVerbs)]),
      ("spell",
        .table
          [("locale", choiceValue locales s.spell.locale),
            ("ignore_words", textsValue s.spell.ignoreWords),
            ("custom_words", fieldsValue s.spell.customWords)]),
      ("repository",
        .table
          [("reference_branch", .text s.repository.referenceBranch),
            ("max_commits_ahead", ← naturalValue? s.repository.maxCommitsAhead),
            ("skip_merge_commits", .boolean s.repository.skipMergeCommits),
            ("timeout_secs", ← naturalValue? s.repository.timeoutSecs)]),
      ("output",
        .table
          [("format", choiceValue reportFormats s.output.format),
            ("verbose", .boolean s.output.verbose), ("color", .boolean s.output.color)])]

end CommitLint.Settings
