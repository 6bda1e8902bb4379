import CommitLint.Settings.Basic
import CommitLint.Toml.Value

/-!
# Settings from TOML

A section is a table of its fields, or an array that lists them in order; what is missing keeps its
default, and what has no meaning is passed over. A document can be decoded as it stands, or after
several documents have been layered. The two manners differ only where a date stands for something
else, and where an array lists too much.
-/

namespace CommitLint.Settings

open Toml (Value)

/-- How a document is decoded: as it stands, or after layering. -/
inductive Manner where
  | direct
  | layered
  deriving DecidableEq, Repr

/-- The key under which a date that stands for a table holds its text. -/
def dateKey : String := "$__toml_private_datetime"

/-- A value as a decoder sees it: a date is a table when decoded directly, and a text after
layering. -/
def seen (manner : Manner) : Value → Value
  | .dateTime s =>
    match manner with
    | .direct => .table [(dateKey, .text s)]
    | .layered => .text s
  | v => v

/-- The entries of a section whose fields have the given names. -/
def sectionEntries? (manner : Manner) (names : List String) (v : Value) :
    Option (List (String × Value)) :=
  match seen manner v with
  | .table entries => some entries
  | .array items =>
    if manner = .layered ∧ names.length < items.length then none else some (names.zip items)
  | _ => none

/-- A text. -/
def textOf? (manner : Manner) (v : Value) : Option String :=
  match seen manner v with
  | .text s => some s
  | _ => none

/-- A number that is not negative. -/
def naturalOf? : Value → Option Nat
  | .integer n => if 0 ≤ n then some n.toNat else none
  | _ => none

/-- A truth value. -/
def booleanOf? : Value → Option Bool
  | .boolean b => some b
  | _ => none

/-- A list of texts. -/
def textsOf? (manner : Manner) : Value → Option (List String)
  | .array items => items.mapM (textOf? manner)
  | _ => none

/-- Texts by name. -/
def fieldsOf? (manner : Manner) (v : Value) : Option Fields :=
  match seen manner v with
  | .table entries => do
    some (.ofList (← entries.mapM fun (key, v) => do some (key, ← textOf? manner v)))
  | _ => none

/-- Whether a value holds nothing. -/
def isHollow : Value → Bool
  | .table entries => entries.isEmpty
  | .array items => items.isEmpty
  | _ => false

/-- One of some named choices: its name, or a table with its name as the only key. -/
def choiceOf? {α : Type} (choices : List (String × α)) : Value → Option α
  | .text s => choices.lookup s
  | .table [(name, v)] => if isHollow v then choices.lookup name else none
  | _ => none

/-- The value of a field, or a default if it is missing. -/
def fieldOr {α : Type} (entries : List (String × Value)) (name : String)
    (decode : Value → Option α) (otherwise : α) : Option α :=
  match entries.lookup name with
  | none => some otherwise
  | some v => decode v

/-- The names of the cases. -/
def letterCases : List (String × LetterCase) :=
  [("lower", .lower), ("upper", .upper), ("ignore", .ignore)]

/-- The names of the locales. -/
def locales : List (String × Locale) := [("US", .us), ("UK", .uk)]

/-- The names of the formats. -/
def reportFormats : List (String × ReportFormat) :=
  [("text", .text), ("json", .json), ("github", .github)]

/-! ### Sections -/

/-- The section of rules. -/
def RuleLists.decode? (m : Manner) (v : Value) : Option RuleLists := do
  let es ← sectionEntries? m ["enabled", "disabled"] v
  let d : RuleLists := {}
  some
    { enabled := ← fieldOr es "enabled" (textsOf? m) d.enabled
      disabled := ← fieldOr es "disabled" (textsOf? m) d.disabled }

/-- The section of the subject. -/
def SubjectLine.decode? (m : Manner) (v : Value) : Option SubjectLine := do
  let es ← sectionEntries? m ["max_length", "case", "disallowed_suffixes"] v
  let d : SubjectLine := {}
  some
    { maxLength := ← fieldOr es "max_length" naturalOf? d.maxLength
      letterCase := ← fieldOr es "case" (choiceOf? letterCases) d.letterCase
      disallowedSuffixes := ← fieldOr es "disallowed_suffixes" (textOf? m) d.disallowedSuffixes }

/-- The section of conventional subjects. -/
def Conventional.decode? (m : Manner) (v : Value) : Option Conventional := do
  let es ← sectionEntries? m
    ["types", "scopes", "max_description_length", "allow_breaking", "require_scope"] v
  let d : Conventional := {}
  some
    { types := ← fieldOr es "types" (textsOf? m) d.types
      scopes := ← fieldOr es "scopes" (textsOf? m) d.scopes
      maxDescriptionLength :=
        ← fieldOr es "max_description_length" naturalOf? d.maxDescriptionLength
      allowBreaking := ← fieldOr es "allow_breaking" booleanOf? d.allowBreaking
      requireScope := ← fieldOr es "require_scope" booleanOf? d.requireScope }

/-- The section of the body. -/
def Body.decode? (m : Manner) (v : Value) : Option Body := do
  let es ← sectionEntries? m ["required", "min_length", "allow_signoff_only"] v
  let d : Body := {}
  some
    { required := ← fieldOr es "required" booleanOf? d.required
      minLength := ← fieldOr es "min_length" naturalOf? d.minLength
      allowSignoffOnly := ← fieldOr es "allow_signoff_only" booleanOf? d.allowSignoffOnly }

/-- The section of sign-offs. -/
def SignOff.decode? (m : Manner) (v : Value) : Option SignOff := do
  let es ← sectionEntries? m ["allow_multiple"] v
  let d : SignOff := {}
  some { allowMultiple := ← fieldOr es "allow_multiple" booleanOf? d.allowMultiple }

/-- The section of signatures. -/
def Signature.decode? (m : Manner) (v : Value) : Option Signature := do
  let es ← sectionEntries? m ["allowed_types"] v
  let d : Signature := {}
  some { allowedTypes := ← fieldOr es "allowed_types" (textsOf? m) d.allowedTypes }

/-- The section of signers. -/
def Identity.decode? (m : Manner) (v : Value) : Option Identity := do
  let es ← sectionEntries? m ["allowed_signers"] v
  let d : Identity := {}
  some { allowedSigners := ← fieldOr es "allowed_signers" (textsOf? m) d.allowedSigners }

/-- The section of issues. -/
def Jira.decode? (m : Manner) (v : Value) : Option Jira := do
  let es ← sectionEntries? m ["projects", "check_body"] v
  let d : Jira := {}
  some
    { projects := ← fieldOr es "projects" (textsOf? m) d.projects
      checkBody := ← fieldOr es "check_body" booleanOf? d.checkBody }

/-- The section of the imperative mood. -/
def Imperative.decode? (m : Manner) (v : Value) : Option Imperative := do
  let es ← sectionEntries? m ["base_forms_ed", "base_forms_s", "base_forms_ing", "non_verbs"] v
  let d : Imperative := {}
  some
    { baseFormsEd := ← fieldOr es "base_forms_ed" (textsOf? m) d.baseFormsEd
      baseFormsS := ← fieldOr es "base_forms_s" (textsOf? m) d.baseFormsS
      baseFormsIng := ← fieldOr es "base_forms_ing" (textsOf? m) d.baseFormsIng
      nonVerbs := ← fieldOr es "non_verbs" (textsOf? m) d.nonVerbs }

/-- The section of spelling. -/
def Spelling.decode? (m : Manner) (v : Value) : Option Spelling := do
  let es ← sectionEntries? m ["locale", "ignore_words", "custom_words"] v
  let d : Spelling := {}
  some
    { locale := ← fieldOr es "locale" (choiceOf? locales) d.locale
      ignoreWords := ← fieldOr es "ignore_words" (textsOf? m) d.ignoreWords
      customWords := ← fieldOr es "custom_words" (fieldsOf? m) d.customWords }

/-- The section of the repository. -/
def Repository.decode? (m : Manner) (v : Value) : Option Repository := do
  let es ← sectionEntries? m
    ["reference_branch", "max_commits_ahead", "skip_merge_commits", "timeout_secs"] v
  let d : Repository := {}
  some
    { referenceBranch := ← fieldOr es "reference_branch" (textOf? m) d.referenceBranch
      maxCommitsAhead := ← fieldOr es "max_commits_ahead" naturalOf? d.maxCommitsAhead
      skipMergeCommits := ← fieldOr es "skip_merge_commits" booleanOf? d.skipMergeCommits
      timeoutSecs := ← fieldOr es "timeout_secs" naturalOf? d.timeoutSecs }

/-- The section of reports. -/
def Output.decode? (m : Manner) (v : Value) : Option Output := do
  let es ← sectionEntries? m ["format", "verbose", "color"] v
  let d : Output := {}
  some
    { format := ← fieldOr es "format" (choiceOf? reportFormats) d.format
      verbose := ← fieldOr es "verbose" booleanOf? d.verbose
      color := ← fieldOr es "color" booleanOf? d.color }

/-! ### Documents -/

/-- The settings of a document. -/
def decode? (m : Manner) (es : List (String × Value)) : Option Settings := do
  some
    { rules := ← fieldOr es "rules" (RuleLists.decode? m) {}
      subject := ← fieldOr es "subject" (SubjectLine.decode? m) {}
      conventional := ← fieldOr es "conventional" (Conventional.decode? m) {}
      body := ← fieldOr es "body" (Body.decode? m) {}
      signoff := ← fieldOr es "signoff" (SignOff.decode? m) {}
      signature := ← fieldOr es "signature" (Signature.decode? m) {}
      identity := ← fieldOr es "identity" (Identity.decode? m) {}
      jira := ← fieldOr es "jira" (Jira.decode? m) {}
      imperative := ← fieldOr es "imperative" (Imperative.decode? m) {}
      spell := ← fieldOr es "spell" (Spelling.decode? m) {}
      repository := ← fieldOr es "repository" (Repository.decode? m) {}
      output := ← fieldOr es "output" (Output.decode? m) {} }

end CommitLint.Settings
