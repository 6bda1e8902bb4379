import CommitLint.Check.Conventional
import CommitLint.Trailer

/-!
# Spelling

Words of the subject and the body are looked up in a table of corrections. A word is reported once,
as it stands at its first occurrence.
-/

namespace CommitLint.Check

open Text

/-- Common misspellings with their corrections. -/
def misspellings : List (String × String) :=
  [("accomodate", "accommodate"), ("acheive", "achieve"), ("adress", "address"),
    ("agressive", "aggressive"), ("alot", "a lot"), ("arguement", "argument"),
    ("begining", "beginning"), ("beleive", "believe"), ("calender", "calendar"),
    ("commited", "committed"), ("comming", "coming"), ("compatability", "compatibility"),
    ("definately", "definitely"), ("dependancy", "dependency"), ("desciption", "description"),
    ("enviroment", "environment"), ("existance", "existence"), ("explicitely", "explicitly"),
    ("occured", "occurred"), ("occurence", "occurrence"), ("paramter", "parameter"),
    ("persistant", "persistent"), ("posible", "possible"), ("recieve", "receive"),
    ("reciever", "receiver"), ("recomend", "recommend"), ("refered", "referred"),
    ("seperate", "separate"), ("succesful", "successful"), ("sucess", "success"), ("teh", "the"),
    ("threshhold", "threshold"), ("untill", "until"), ("wich", "which")]

/-- American spellings with the British ones. -/
def britishSpellings : List (String × String) :=
  [("analyze", "analyse"), ("behavior", "behaviour"), ("canceled", "cancelled"),
    ("catalog", "catalogue"), ("center", "centre"), ("color", "colour"),
    ("customize", "customise"), ("defense", "defence"), ("favorite", "favourite"),
    ("flavor", "flavour"), ("honor", "honour"), ("initialize", "initialise"),
    ("labeled", "labelled"), ("license", "licence"), ("normalize", "normalise"),
    ("optimize", "optimise"), ("organize", "organise"), ("serialize", "serialise"),
    ("synchronize", "synchronise")]

/-- The form in which a word is looked up. -/
def lookupForm (word : String) : String := .ofList (lower (trim word.toList))

/-- The corrections that the settings ask for. The first entry of a word counts, so custom words
stand first, the last of equal ones before the others. -/
def corrections (settings : Settings.Spelling) : List (String × String) :=
  (settings.customWords.entries.map fun (word, correction) =>
    (lookupForm word, correction)).reverse ++
  (match settings.locale with
    | .us => []
    | .uk => britishSpellings) ++
  misspellings

/-- Whether a character separates words: all but letters and apostrophes do. -/
def separatesWords (c : Char) : Bool := !(isAlphabetic c || c == '\'')

/-- The words of a line, without the apostrophes around them. -/
def wordsOfLine (line : List Char) : List String :=
  (((piecesBy separatesWords line).map (trimBoth (· == '\'') ·)).filter (!·.isEmpty)).map
    String.ofList

/-- The words of a commit that are checked: those of the subject and of the body lines that do not
look like sign-offs. -/
def checkedWords (c : Commit) : List String :=
  ((c.subject.toList :: lines c.body.toList).filter (!Trailer.isSignOffAttempt ·)).flatMap
    wordsOfLine

/-- The finding that a word is misspelled. -/
def misspelled (word correction : String) : Finding where
  rule := .spell
  code := .misspelling
  message := s!"'{word}' is misspelled, did you mean '{correction}'?"
  help := s!"Replace '{word}' with '{correction}'"
  context := .ofList [("actual", word), ("expected", correction)]

/-- The lower case of a word, by which occurrences are told to be of one word. -/
def lowerWord (word : String) : String := .ofList (lower word.toList)

/-- The findings about some words, in order; `skipped` holds the lower-case words that are left
alone, because the settings say so or because they have been reported. -/
def spellFindings (table : List (String × String)) (skipped : List String) :
    List String → List Finding
  | [] => []
  | word :: more =>
    let low := lowerWord word
    match if skipped.contains low then none else table.lookup low with
    | none => spellFindings table skipped more
    | some correction => misspelled word correction :: spellFindings table (low :: skipped) more

/-- No word of the message is misspelled. -/
def spelling (settings : Settings.Spelling) (c : Commit) : Outcome :=
  let checked := checkedWords c
  { rule := .spell
    details := .ofList [("checked_words", toString checked.length)]
    findings :=
      spellFindings (corrections settings) (settings.ignoreWords.map lookupForm) checked }

end CommitLint.Check
