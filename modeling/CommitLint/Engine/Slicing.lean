import CommitLint.Engine
import CommitLint.Text.Cut

/-!
# Running the rules byte by byte

How the program runs its rules. It finds a place in a text as a number of bytes and cuts the text
there, or takes an item of a list by its number, and where there is no such place it breaks off, and
the run with it. So the functions here are partial: each cuts and goes on with what it cut off. Four
rules cut. If there is a log, a line is written about each commit too, and this line cuts the hash.
-/

namespace CommitLint

open Text

/-- The number of spaces after the first colon, which is a byte long. -/
def Subject.spacesByBytes? (line : List Char) : Option (Option Nat) :=
  match offset? [':'] line with
  | none => some none
  | some colon => do
    let rest ← fromByte? (colon + 1) line
    some (some (rest.takeWhile (· == ' ')).length)

/-! ### Armored data -/

/-- The type and the text of the first block. -/
def Armor.firstBlockByBytes? (text : List Char) :
    Option (Except Fault (List Char × List Char)) :=
  match offset? beginStart text with
  | none => some (.error .noBegin)
  | some start => do
    let rest ← fromByte? start text
    match typeOfLine? (trim ((lines rest).headD [])) with
    | none => some (.error .unreadableBegin)
    | some blockType =>
      match offset? (endLine blockType) rest with
      | some stop => do
        let block ← upToByte? (stop + byteLength (endLine blockType)) rest
        some (.ok (blockType, block))
      | none =>
        some (.error
          (if occurs endStart rest then .endMismatch (.ofList blockType) else .missingEnd))

/-- The first block of a text. -/
def Armor.decodeByBytes? (text : List Char) : Option (Except Fault Block) := do
  match ← firstBlockByBytes? text with
  | .error fault => some (.error fault)
  | .ok (blockType, block) => some (blockOf blockType block)

namespace Envelope

/-- Check the first blob between the markers of an SSH signature. -/
def checkArmoredSshByBytes? (text : List Char) : Option (Except Fault Unit) :=
  match offset? sshBegin text with
  | none => some (.error .unknownFormat)
  | some start => do
    let after ← fromByte? (start + byteLength sshBegin) text
    match offset? sshEnd after with
    | none => some (.error .missingEnd)
    | some stop => do
      let between ← upToByte? stop after
      some (checkBetween between)

/-- Check an envelope as the kind that its markers tell. -/
def checkAsByBytes? (signature : List Char) : Kind → Option (Except Fault Unit)
  | .gpg => (Armor.decodeByBytes? signature).map checkBlock
  | .ssh =>
    if occurs sshBegin signature then checkArmoredSshByBytes? signature
    else some (checkShorthand signature)
  | .unknown => some (.error .unknownFormat)

/-- Judge an envelope. -/
def judgeByBytes? (signature : List Char) : Option Verdict :=
  if isBlankText signature then some ⟨.unknown, some .empty⟩
  else do
    let checked ← checkAsByBytes? signature (classify signature)
    some ⟨classify signature, faultOf checked⟩

end Envelope

/-! ### Rules -/

namespace Check

/-- What is wrong with the blanks after the colon. -/
def spacingByBytes? (line : List Char) : Option (List Finding) :=
  match cutAt ':' line with
  | none => some []
  | some (head, rest) =>
    if !looksLikeHead head || isBlankText rest then some []
    else do
      let spaces := (← Subject.spacesByBytes? line).getD 0
      some (if spaces == 1 then [] else [wrongSpacing spaces])

/-- The subject is conventional, and its parts are allowed. -/
def conventionalByBytes? (settings : Settings.Conventional) (c : Commit) : Option Outcome :=
  if c.isEmpty then some (.failure (emptyMessage .conventionalCommit))
  else do
    let spacing ← spacingByBytes? c.subject.toList
    some (subjectOutcome settings c.subject spacing)

/-- The keys in a subject, and what is wrong with their place. The first one is taken by its
number. -/
def subjectKeysByIndex? (subject : List Char) : Option (List (List Char) × List Finding) :=
  let keys := IssueKey.find subject
  if keys.isEmpty then some ([], [missingKey])
  else if isMisplaced subject then do
    let first ← keys[0]?
    some (keys, [misplacedKey ((words subject).getLastD []) first])
  else some (keys, [])

/-- The keys on the first line of references, and what is wrong with it. The line is taken by its
number, and what it starts with is cut off. -/
def bodyKeysByBytes? (body : List Char) : Option (List (List Char) × List Finding) :=
  let ls := (lines body).map trim
  match ls.findIdx? (startsWith refsStart ·) with
  | none => some ([], [missingRefs])
  | some index => do
    let line ← ls[index]?
    let rest ← fromByte? (byteLength refsStart) line
    some (refsKeys ls line rest)

/-- The message refers to an issue of an allowed project. -/
def issueByBytes? (settings : Settings.Jira) (c : Commit) : Option Outcome :=
  if c.isEmpty then some (.failure (emptyMessage .jiraReference))
  else do
    let (keys, findings) ←
      if settings.checkBody then bodyKeysByBytes? c.body.toList
      else subjectKeysByIndex? c.subject.toList
    some (keysOutcome settings keys findings)

/-- The kind of the envelope of a commit if it is sound, and otherwise what is wrong with it. -/
def checkEnvelopeByBytes? (explain : String → String) (rule : Rule) (c : Commit) :
    Option (Except Finding Envelope.Kind) :=
  if isBlankText c.signature.toList then some (.error (unsigned rule))
  else (Envelope.judgeByBytes? c.signature.toList).map (ofVerdict explain rule)

end Check

/-- What a rule says about a commit, unless it breaks off. -/
def Rule.checkByBytes? (rule : Rule) (settings : Settings) (team : Collaborators) (c : Commit)
    (s : Session) : Option (Outcome × Session) :=
  match rule with
  | .conventionalCommit => (Check.conventionalByBytes? settings.conventional c).map (·, s)
  | .jiraReference => (Check.issueByBytes? settings.jira c).map (·, s)
  | .signature =>
    (Check.checkEnvelopeByBytes? team.explain .signature c).map fun checked =>
      (Check.signatureOutcome settings.signature c checked, s)
  | .signedIdentity =>
    (Check.checkEnvelopeByBytes? team.explain .signedIdentity c).map
      (Check.identityOutcome settings.identity team c s)
  | rule => some (rule.check settings team c s)

/-! ### Runs -/

/-- The line of a log about a result, which names the commit by the first bytes of its hash. -/
def Result.logLine? (r : Result) : Option String := do
  let name ← if r.commit.hash.isEmpty then some "<message>" else r.commit.shortHash?
  some s!"Validated commit {name}: {r.findings.length} errors"

/-- What is logged about a result, if there is a log. -/
def Result.log? (r : Result) (logs : Bool) : Option (List String) :=
  if logs then r.logLine?.map ([·]) else some []

namespace Engine

/-- The outcomes of some rules, unless one of them breaks off. -/
def runRules? (e : Engine) (c : Commit) : List Rule → Session → Option (List Outcome × Session)
  | [], s => some ([], s)
  | rule :: rules, s => do
    let (outcome, s) ← rule.checkByBytes? e.settings e.team c s
    let (outcomes, s) ← e.runRules? c rules s
    some (outcome :: outcomes, s)

/-- The result of a commit and what is logged about it, unless a rule breaks off or the log does. -/
def validate? (e : Engine) (logs : Bool) (c : Commit) (s : Session) :
    Option (Result × List String × Session) := do
  let (outcomes, s) ← e.runRules? c e.rules s
  let result := Result.ofOutcomes c outcomes
  some (result, ← result.log? logs, s)

/-- The results of some commits and the log about them, unless one of them breaks off the run. -/
def validateAll? (e : Engine) (logs : Bool) :
    List Commit → Session → Option (List Result × List String × Session)
  | [], s => some ([], [], s)
  | c :: cs, s => do
    let (result, line, s) ← e.validate? logs c s
    let (results, lines, s) ← e.validateAll? logs cs s
    some (result :: results, line ++ lines, s)

end Engine

end CommitLint
