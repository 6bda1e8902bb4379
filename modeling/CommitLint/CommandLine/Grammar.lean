import CommitLint.Settings.Basic
import CommitLint.Text.Find

/-!
# The grammar of command lines

Commands lie on levels: the program itself, its commands, and the actions of a command. Each level
has its switches, some of which take a value, and may have commands below it.
-/

namespace CommitLint

/-- Why a command line is not run. Being asked for help or for the version is a reason as well. -/
inductive UsageFault where
  /-- Switches that exclude each other, or one given twice. -/
  | conflict
  /-- A value that is missing, or is none of those that are known. -/
  | badValue
  /-- A value that is no number. -/
  | badNumber
  /-- A value for a switch that takes none. -/
  | unexpectedValue
  | unknownArgument
  | unknownCommand
  | missingCommand
  /-- Nothing is given where a command is needed. -/
  | nothingGiven
  | helpRequested
  | versionRequested
  deriving DecidableEq, Repr

/-- The exit status of a fault: asking for help or the version is no mistake. -/
def UsageFault.exitStatus : UsageFault → Nat
  | .helpRequested => 0
  | .versionRequested => 0
  | _ => 2

/-- A fault in words. -/
def UsageFault.message : UsageFault → String
  | .conflict => "arguments cannot be used together, or more than once"
  | .badValue => "a value is missing or not one of the known values"
  | .badNumber => "a value is not a number"
  | .unexpectedValue => "a value for an argument that takes none"
  | .unknownArgument => "unknown argument"
  | .unknownCommand => "unknown command"
  | .missingCommand => "a command is missing"
  | .nothingGiven => "usage: cklint hooks install|uninstall|status"
  | .helpRequested => "usage: cklint [validate|rules|hooks|init|version]"
  | .versionRequested => "cklint 1.0.0"

namespace CommandLine

open Text

/-- A switch. -/
inductive Switch where
  | debug
  | format
  | config
  | noColor
  | revision
  | range
  | baseBranch
  | messageFile
  | count
  | enable
  | disable
  | includeMerges
  | verbose
  | force
  | help
  | version
  deriving DecidableEq, Repr

/-- A level of commands. -/
inductive Level where
  | program
  | validate
  | rules
  | hooks
  | installHook
  | uninstallHook
  | hookStatus
  | init
  | version
  deriving DecidableEq, Repr

/-- The report formats by their names. -/
def formats : List (String × ReportFormat) :=
  [("text", .text), ("json", .json), ("github", .github)]

/-- The greatest number that a count may be. -/
def greatestCount : Nat := 0xFFFFFFFFFFFFFFFF

/-- The number that a value stands for: digits, which a plus sign may precede. -/
def readCount? (value : List Char) : Option Nat :=
  let digits := (afterStart? ['+'] value).getD value
  if digits.isEmpty || !digits.all Char.isDigit then none
  else
    let n := digits.foldl (fun n c => n * 10 + (c.toNat - 48)) 0
    if n ≤ greatestCount then some n else none

namespace Switch

/-- The name that is written after two dashes. -/
def long : Switch → String
  | .debug => "debug"
  | .format => "format"
  | .config => "config"
  | .noColor => "no-color"
  | .revision => "ref"
  | .range => "range"
  | .baseBranch => "base-branch"
  | .messageFile => "message-file"
  | .count => "count"
  | .enable => "enable"
  | .disable => "disable"
  | .includeMerges => "include-merges"
  | .verbose => "verbose"
  | .force => "force"
  | .help => "help"
  | .version => "version"

/-- The letter that is written after one dash. -/
def short? : Switch → Option Char
  | .debug => some 'd'
  | .config => some 'c'
  | .count => some 'n'
  | .verbose => some 'v'
  | .force => some 'f'
  | .help => some 'h'
  | .version => some 'V'
  | _ => none

/-- Whether a switch takes a value. -/
def takesValue (s : Switch) : Bool :=
  [format, config, revision, range, baseBranch, messageFile, count, enable, disable].contains s

/-- Whether a switch can be given more than once. Its value is a list with commas. -/
def isRepeatable (s : Switch) : Bool := [enable, disable].contains s

/-- Whether a switch says what to validate. Only one of these can be given. -/
def isTarget (s : Switch) : Bool := [revision, range, baseBranch, messageFile].contains s

/-- What is wrong with a value of a switch. -/
def fault? (s : Switch) (value : String) : Option UsageFault :=
  match s with
  | .format => if (formats.lookup value).isNone then some .badValue else none
  | .config | .messageFile => if value.isEmpty then some .badValue else none
  | .count => if (readCount? value.toList).isNone then some .badNumber else none
  | _ => none

end Switch

namespace Level

/-- The switches that every level has. -/
def everywhere : List Switch := [.debug, .format, .config, .noColor, .help, .version]

/-- The switches of a level. -/
def switches : Level → List Switch
  | .validate =>
    everywhere ++
      [.revision, .range, .baseBranch, .messageFile, .count, .enable, .disable, .includeMerges,
        .verbose]
  | .init => everywhere ++ [.force]
  | .installHook => everywhere ++ [.force]
  | _ => everywhere

/-- The levels below a level, by their names. -/
def commands : Level → List (String × Level)
  | .program =>
    [("validate", .validate), ("rules", .rules), ("hooks", .hooks), ("init", .init),
      ("version", .version)]
  | .hooks =>
    [("install", .installHook), ("uninstall", .uninstallHook), ("status", .hookStatus)]
  | _ => []

/-- Whether there are commands at a level. -/
def hasCommands (level : Level) : Bool := !level.commands.isEmpty

/-- Whether a command has to be given at a level. -/
def needsCommand (level : Level) : Bool := level == .hooks

/-- The switch of a long name. -/
def long? (level : Level) (name : List Char) : Option Switch :=
  level.switches.find? (·.long.toList == name)

/-- The switch of a letter. -/
def short? (level : Level) (letter : Char) : Option Switch :=
  level.switches.find? (·.short? == some letter)

end Level

end CommandLine

end CommitLint
