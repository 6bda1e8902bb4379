import CommitLint.Failure
import CommitLint.Settings.Encode
import CommitLint.Text.Casing
import CommitLint.Toml.Document

/-!
# Reading and layering settings

Settings come from one document, from several laid over one another, or from a document over
settings that are there already. What comes out is checked before it is used.
-/

namespace CommitLint.Settings

open Toml (Value)

/-- Whether a text names a kind of signature, in any case. -/
def namesSignatureKind (s : String) : Bool :=
  let low := Text.lower s.toList
  low == "gpg".toList || low == "ssh".toList

/-- The first thing in some settings with which no rule could work. -/
def problem? (s : Settings) : Option Failure :=
  if s.subject.maxLength = 0 then
    some (.settingsInvalid "subject.max_length" "must be greater than zero")
  else if s.conventional.maxDescriptionLength = 0 then
    some (.settingsInvalid "conventional.max_description_length" "must be greater than zero")
  else
    (s.signature.allowedTypes.find? (!namesSignatureKind ·)).map fun kind =>
      .settingsInvalid "signature.allowed_types" s!"unknown signature type '{kind}'"

/-- Settings that can be used. -/
def checked (s : Settings) : Except Failure Settings :=
  match s.problem? with
  | none => .ok s
  | some failure => .error failure

/-- The entries of a document, or the failure that it cannot be read. -/
def readEntries (text : String) : Except Failure (List (String × Value)) :=
  match Toml.readDocument text with
  | none => .error .settingsUnreadable
  | some entries => .ok entries

/-- The settings of some entries, checked. -/
def ofEntries (m : Manner) (entries : List (String × Value)) : Except Failure Settings :=
  match decode? m entries with
  | none => .error .settingsUnreadable
  | some s => s.checked

/-- The settings of one document. -/
def parse (text : String) : Except Failure Settings := do
  ofEntries .direct (← readEntries text)

/-- The settings of some documents, each laid over those before it. Without documents these are the
defaults. -/
def ofLayers (texts : List String) : Except Failure Settings := do
  let layers ← texts.mapM readEntries
  ofEntries .layered (layers.foldl Toml.mergeEntries [])

/-- Settings with a document laid over them. -/
def overlay (base : Settings) (text : String) : Except Failure Settings :=
  match base.encode? with
  | none => .error .settingsUnreadable
  | some entries => do
    ofEntries .layered (Toml.mergeEntries entries (← readEntries text))

end CommitLint.Settings
