import CommitLint.CommandLine.Basic
import CommitLint.CommandLine.Grammar
import CommitLint.Text.Piece

/-!
# Reading command lines

A command line is read from left to right. A switch counts once its value is known, which is when
something comes after the value, or when the level ends; so a mistake in a value can be reported
after one in what follows. A command opens a level below, which ends with the line, and the levels
end from the innermost outwards.
-/

namespace CommitLint.CommandLine

open Text

/-- The form of a word. -/
inductive Word where
  /-- Two dashes, after which there are no switches. -/
  | dashes
  | long (name : List Char) (value : Option (List Char))
  | short (letters : List Char)
  | plain
  deriving DecidableEq, Repr

/-- The form of a word. A single dash is a plain word. -/
def Word.of : List Char → Word
  | ['-', '-'] => .dashes
  | '-' :: '-' :: s =>
    match cutAt '=' s with
    | some (name, value) => .long name (some value)
    | none => .long s none
  | '-' :: c :: s => .short (c :: s)
  | _ => .plain

/-- What has been read at a level: switches with their values, and a switch whose value may still be
to come. -/
structure Given where
  settled : List (Switch × List String) := []
  pending : Option (Switch × Option String) := none
  deriving DecidableEq, Repr, Inhabited

namespace Given

/-- Whether the next word is a value. -/
def awaits (g : Given) : Bool := g.pending.any (·.2.isNone)

/-- The values that a written one stands for. -/
def valuesOf (s : Switch) (written : String) : List String :=
  if s.isRepeatable then (pieces ',' written.toList).map .ofList else [written]

/-- What is given with one more switch. -/
def record (g : Given) (s : Switch) (values : List String) : Except UsageFault Given :=
  if !s.isRepeatable && g.settled.any (·.1 == s) then .error .conflict
  else
    match values.findSome? s.fault? with
    | some fault => .error fault
    | none => .ok { g with settled := g.settled ++ [(s, values)] }

/-- What is given once nothing is pending. -/
def settle (g : Given) : Except UsageFault Given :=
  match g.pending with
  | none => .ok g
  | some (_, none) => .error .badValue
  | some (s, some written) => record { g with pending := none } s (valuesOf s written)

/-- What is given after a switch that takes no value. -/
def addFlag (g : Given) (s : Switch) : Except UsageFault Given := do
  let g ← g.settle
  match s with
  | .help => throw .helpRequested
  | .version => throw .versionRequested
  | s => g.record s []

/-- What is given after a switch that takes a value, which may stand in the same word. -/
def addValued (g : Given) (s : Switch) (attached : Option (List Char)) :
    Except UsageFault Given := do
  let g ← g.settle
  match attached with
  | some value => g.record s (valuesOf s (.ofList value))
  | none => return { g with pending := some (s, none) }

/-- What is given after some letters. The rest of a word after a switch that takes a value is the
value, apart from an equals sign before it. -/
def addShort (level : Level) : List Char → Given → Except UsageFault Given
  | [], g => .ok g
  | c :: cs, g =>
    match level.short? c with
    | none => .error .unknownArgument
    | some s =>
      if s.takesValue then
        g.addValued s (if cs.isEmpty then none else some ((afterStart? ['='] cs).getD cs))
      else g.addFlag s >>= addShort level cs

/-- What is given after a long switch. -/
def addLong (level : Level) (name : List Char) (value : Option (List Char)) (g : Given) :
    Except UsageFault Given :=
  match level.long? name with
  | none => .error .unknownArgument
  | some s =>
    if s.takesValue then g.addValued s value
    else if value.isSome then .error .unexpectedValue
    else g.addFlag s

/-- What is given after a value. -/
def addValue (g : Given) (value : String) : Given :=
  { g with pending := g.pending.map fun (s, _) => (s, some value) }

end Given

/-- A level that has been read. -/
structure Layer where
  level : Level
  values : List (Switch × List String)
  /-- The file of settings that a variable names, where no switch does. -/
  fallback : Option String := none
  deriving DecidableEq, Repr

/-- The file of settings that a variable names, unless it is given at the level. -/
def configFallback (fallback : Option String) (g : Given) : Except UsageFault (Option String) :=
  if g.settled.any (·.1 == .config) then .ok none
  else
    match fallback with
    | none => .ok none
    | some value =>
      match Switch.config.fault? value with
      | some fault => .error fault
      | none => .ok (some value)

/-- The end of a level, below which there may be another. -/
def finish (fallback : Option String) (level : Level) (hasInner : Bool) (g : Given) :
    Except UsageFault Layer := do
  let g ← g.settle
  let file ← configFallback fallback g
  if level.needsCommand && !hasInner then
    throw (if g.settled.isEmpty && file.isNone then .nothingGiven else .missingCommand)
  else if 1 < g.settled.countP (·.1.isTarget) then throw .conflict
  else return ⟨level, g.settled, file⟩

/-- The fault that a word is which has no place at a level. After two dashes a command has none
either. -/
def strayFault (level : Level) (afterDashes : Bool) (word : String) : UsageFault :=
  if !level.hasCommands then .unknownArgument
  else if afterDashes && (word == "help" || (level.commands.lookup word).isSome) then
    .unknownArgument
  else .unknownCommand

/-- Whether some words after `help` name a level below another; `none` is the level of `help`
itself. -/
def helpFault : Option Level → List String → UsageFault
  | _, [] => .helpRequested
  | none, _ :: _ => .unknownCommand
  | some level, word :: words =>
    if level.hasCommands && word == "help" then helpFault none words
    else
      match level.commands.lookup word with
      | some below => helpFault (some below) words
      | none => .unknownCommand

/-- What the words at a level say, the outermost level first. -/
def readLevel (fallback : Option String) :
    Level → Given → List String → Except UsageFault (List Layer)
  | level, g, [] => (finish fallback level false g).map ([·])
  | level, g, word :: words =>
    if !g.awaits && level.hasCommands && word == "help" then .error (helpFault (some level) words)
    else
      match if g.awaits then none else level.commands.lookup word with
      | some below => do
        let inner ← readLevel fallback below {} words
        return (← finish fallback level true g) :: inner
      | none =>
        match Word.of word.toList with
        | .dashes =>
          match words with
          | [] => (finish fallback level false g).map ([·])
          | stray :: _ => .error (strayFault level true stray)
        | .long name value => do readLevel fallback level (← g.addLong level name value) words
        | .short letters => do readLevel fallback level (← Given.addShort level letters g) words
        | .plain =>
          if g.awaits then readLevel fallback level (g.addValue word) words
          else .error (strayFault level false word)

/-! ### The command line that some levels make up -/

namespace Layer

/-- Whether a switch is given at a level. -/
def has (l : Layer) (s : Switch) : Bool := l.values.any (·.1 == s)

/-- The values of a switch at a level. -/
def valuesOf (l : Layer) (s : Switch) : List String :=
  (l.values.filter (·.1 == s)).flatMap (·.2)

/-- The value of a switch at a level. -/
def value? (l : Layer) (s : Switch) : Option String := (l.valuesOf s).head?

/-- What a level says about what to validate. -/
def target? (l : Layer) : Option Target :=
  ((l.value? .revision).map .revision).or <|
    ((l.value? .range).map .range).or <|
      ((l.value? .baseBranch).map .since).or ((l.value? .messageFile).map .messageFile)

/-- The options of a validation at a level. -/
def validateOptions (l : Layer) : ValidateOptions where
  target := l.target?
  count := (l.value? .count).bind (readCount? ·.toList)
  enable := l.valuesOf .enable
  disable := l.valuesOf .disable
  includeMerges := l.has .includeMerges
  verbose := l.has .verbose

/-- The command that a level stands for. -/
def command? (l : Layer) : Option Command :=
  match l.level with
  | .program => none
  | .validate => some (.validate l.validateOptions)
  | .rules => some .rules
  | .hooks => none
  | .installHook => some (.hooks (.install (l.has .force)))
  | .uninstallHook => some (.hooks .uninstall)
  | .hookStatus => some (.hooks .status)
  | .init => some (.init (l.has .force))
  | .version => some .version

end Layer

/-- The command line that some levels make up, the outermost first. Of a switch that is given at
more than one level, the innermost counts; a switch counts more than a variable. -/
def ofLayers (layers : List Layer) : CommandLine where
  command := layers.getLast?.bind Layer.command?
  debug := layers.any (·.has .debug)
  format := (layers.reverse.findSome? (·.value? .format)).bind (List.lookup · formats)
  config :=
    (layers.reverse.findSome? (·.value? .config)).or (layers.findSome? Layer.fallback)
  noColor := layers.any (·.has .noColor)

/-- The command line that some words after the name of the program make up, with a variable that may
name a file of settings. -/
def read (fallback : Option String) (words : List String) : Except UsageFault CommandLine :=
  (readLevel fallback .program {} words).map ofLayers

end CommitLint.CommandLine
