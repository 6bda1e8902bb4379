import CommitLint.Check.SubjectLine

/-!
# The imperative mood

The first word of what the subject states should be a verb in the imperative mood. Endings tell the
other moods, with a list of exceptions for each ending.
-/

namespace CommitLint.Check

open Text

/-- Imperatives that end in `ed`. -/
def baseFormsEd : List String :=
  ["bed", "bleed", "breed", "embed", "exceed", "feed", "heed", "need", "proceed", "seed", "shed",
    "shred", "speed", "succeed", "wed", "weed"]

/-- Imperatives that end in `ing`. -/
def baseFormsIng : List String :=
  ["bring", "cling", "fling", "ping", "ring", "sing", "sling", "spring", "sting", "string",
    "swing", "wring"]

/-- Imperatives that end in `s`. -/
def baseFormsS : List String :=
  ["access", "address", "alias", "assess", "bias", "bless", "bypass", "canvas", "compress",
    "cross", "decompress", "discuss", "dismiss", "embarrass", "express", "focus", "guess",
    "harness", "miss", "pass", "possess", "press", "process", "progress", "redress", "regress",
    "stress", "suppress", "toss"]

/-- Words that start no imperative sentence. -/
def nonVerbs : List String :=
  ["a", "an", "the", "this", "that", "these", "those", "initial", "new", "version", "release",
    "minor", "major", "misc", "miscellaneous", "various", "some", "more", "small", "typo", "typos",
    "wip", "readme", "docs"]

/-- Whether a word is in a built-in list, or in an added one in any case and with blanks around
it. -/
def inWordList (builtIn added : List String) (word : List Char) : Bool :=
  builtIn.any (·.toList == word) || added.any fun w => lower (trim w.toList) == word

/-- What is wrong with the mood of a word in lower case: a code, and how a message says it. -/
def moodFault? (settings : Settings.Imperative) (word : List Char) : Option (Code × String) :=
  if inWordList nonVerbs settings.nonVerbs word then some (.nonVerb, "is not a verb")
  else if endsWith "ed".toList word && !inWordList baseFormsEd settings.baseFormsEd word then
    some (.pastTense, "is in the past tense")
  else if endsWith "ing".toList word && !inWordList baseFormsIng settings.baseFormsIng word then
    some (.gerund, "is a gerund")
  else if 2 < byteLength word && endsWith ['s'] word && !endsWith ['s', 's'] word &&
      !inWordList baseFormsS settings.baseFormsS word then
    some (.thirdPerson, "is in the third person")
  else none

/-- The first word of a text, in lower case and without the punctuation around it, when it consists
of letters. -/
def firstWord? (text : List Char) : Option (List Char) :=
  match words text with
  | [] => none
  | w :: _ =>
    let word := lower (trimBoth (!isAlphanumeric ·) w)
    if word.isEmpty || !word.all isAlphabetic then none else some word

/-- The finding about the mood of a word. -/
def moodFinding (word : String) (code : Code) (problem : String) : Finding where
  rule := .imperativeVerb
  code := code
  message := s!"First word '{word}' {problem}; use the imperative mood"
  context := .ofList [("actual", word), ("expected", "imperative verb")]

/-- What the subject states starts with a verb in the imperative mood. -/
def mood (settings : Settings.Imperative) (c : Commit) : Outcome :=
  let subject := c.subject.toList
  if isBlankText subject then .failure (emptySubject .imperativeVerb)
  else
    match firstWord? (Subject.statement subject) with
    | none => { rule := .imperativeVerb }
    | some word =>
      { rule := .imperativeVerb
        details := .ofList [("first_word", .ofList word)]
        findings :=
          match moodFault? settings word with
          | none => []
          | some (code, problem) => [moodFinding (.ofList word) code problem] }

end CommitLint.Check
