import CommitLint.Text.Find
import CommitLint.Text.Letter
import CommitLint.Toml.Value

/-!
# TOML scalars

Reading the values that hold no other values: texts in their four forms, numbers, booleans, dates
and times. Each reader takes the text from its place on, and gives the value with what follows it.
-/

namespace CommitLint.Toml

open Text

/-- A reader of some `α`: what stands at the beginning of a text, and what follows it. -/
abbrev Reader (α : Type) := List Char → Option (α × List Char)

/-- Whether a character is a space or a tab. -/
def isSpace (c : Char) : Bool := c == ' ' || c == '\t'

/-- What follows spaces and tabs. -/
def skipSpaces (s : List Char) : List Char := s.dropWhile isSpace

/-- What follows a line end. -/
def afterNewline? : List Char → Option (List Char)
  | '\n' :: s => some s
  | '\r' :: '\n' :: s => some s
  | _ => none

/-- Whether a character may stand in a comment or a text: all but control characters. -/
def isPrintable (c : Char) : Bool := c == '\t' || (0x20 ≤ c.toNat && c.toNat != 0x7F)

/-! ### Texts -/

/-- The value of a hexadecimal digit. -/
def hexValue? (c : Char) : Option Nat :=
  if isDigitAscii c then some (c.toNat - 48)
  else if 'a' ≤ c && c ≤ 'f' then some (c.toNat - 87)
  else if 'A' ≤ c && c ≤ 'F' then some (c.toNat - 55)
  else none

/-- The number that digits of some base write. -/
def ofDigitValues (base : Nat) (ds : List Nat) : Nat := ds.foldl (fun n d => n * base + d) 0

/-- The character whose code point some hexadecimal digits write, if there are `count` of them. -/
def readCodePoint (count : Nat) : Reader Char := fun s => do
  let digits := s.take count
  if digits.length = count then
    let n := ofDigitValues 16 (← digits.mapM hexValue?)
    if n.isValidChar then some (Char.ofNat n, s.drop count) else none
  else none

/-- The character that stands for itself or a control character after a backslash. -/
def shortEscape? : Char → Option Char
  | 'b' => some '\x08'
  | 't' => some '\t'
  | 'n' => some '\n'
  | 'f' => some '\x0c'
  | 'r' => some '\r'
  | '"' => some '"'
  | '\\' => some '\\'
  | _ => none

/-- The character that an escape stands for; the backslash has been read. -/
def readEscape : Reader Char
  | 'u' :: s => readCodePoint 4 s
  | 'U' :: s => readCodePoint 8 s
  | c :: s => (shortEscape? c).map (·, s)
  | [] => none

/-- The rest of a text in quotes on one line. -/
def readBasic : Nat → Reader (List Char)
  | 0, _ => none
  | fuel + 1, s =>
    match s with
    | '"' :: rest => some ([], rest)
    | '\\' :: rest => do
      let (c, rest) ← readEscape rest
      let (cs, rest) ← readBasic fuel rest
      some (c :: cs, rest)
    | c :: rest =>
      if isPrintable c then do
        let (cs, rest) ← readBasic fuel rest
        some (c :: cs, rest)
      else none
    | [] => none

/-- The rest of a text in apostrophes on one line. -/
def readLiteral : Reader (List Char)
  | [] => none
  | c :: s =>
    if c = '\'' then some ([], s)
    else if isPrintable c then (readLiteral s).map fun (cs, rest) => (c :: cs, rest)
    else none

/-- A text of several lines may end with up to two quotes of its own before the three that close
it: these quotes, and what follows, when at least three quotes stand here. -/
def readClosing (quote : Char) : Reader (List Char) := fun s =>
  let count := (s.takeWhile (· == quote)).length
  if count < 3 then none
  else
    let own := min (count - 3) 2
    some (List.replicate own quote, s.drop (own + 3))

/-- What follows line ends, spaces and tabs. -/
def skipLineBlanks (s : List Char) : List Char :=
  match s with
  | '\n' :: rest => skipLineBlanks rest
  | '\r' :: '\n' :: rest => skipLineBlanks rest
  | ' ' :: rest => skipLineBlanks rest
  | '\t' :: rest => skipLineBlanks rest
  | _ => s

/-- The rest of a text in quotes on several lines. A backslash at the end of a line takes the blanks
after it away. -/
def readLongBasic : Nat → Reader (List Char)
  | 0, _ => none
  | fuel + 1, s =>
    match readClosing '"' s with
    | some closed => some closed
    | none =>
      match s with
      | '\\' :: rest =>
        match afterNewline? (skipSpaces rest) with
        | some rest => readLongBasic fuel (skipLineBlanks rest)
        | none => do
          let (c, rest) ← readEscape rest
          let (cs, rest) ← readLongBasic fuel rest
          some (c :: cs, rest)
      | '\r' :: '\n' :: rest => (readLongBasic fuel rest).map fun (cs, rest) => ('\n' :: cs, rest)
      | c :: rest =>
        if isPrintable c || c == '\n' then
          (readLongBasic fuel rest).map fun (cs, rest) => (c :: cs, rest)
        else none
      | [] => none

/-- The rest of a text in apostrophes on several lines. -/
def readLongLiteral : Reader (List Char)
  | [] => none
  | c :: s =>
    match readClosing '\'' (c :: s) with
    | some closed => some closed
    | none =>
      match c, s with
      | '\r', '\n' :: _ => readLongLiteral s
      | _, _ =>
        if isPrintable c || c == '\n' then
          (readLongLiteral s).map fun (cs, rest) => (c :: cs, rest)
        else none

/-- What follows a line end, if one stands here. -/
def skipNewline (s : List Char) : List Char := (afterNewline? s).getD s

/-- A text on one line, in quotes or apostrophes. -/
def readShortText : Reader (List Char)
  | '"' :: s => readBasic (s.length + 1) s
  | '\'' :: s => readLiteral s
  | _ => none

/-- A text in any of its four forms. -/
def readText : Reader (List Char)
  | '"' :: '"' :: '"' :: s => readLongBasic (s.length + 1) (skipNewline s)
  | '\'' :: '\'' :: '\'' :: s => readLongLiteral (skipNewline s)
  | s => readShortText s

/-! ### Numbers -/

/-- The rest of a run of digits, in which single underscores may stand between digits. -/
def moreDigits (isDigit : Char → Bool) : Reader (List Char)
  | [] => some ([], [])
  | c :: s =>
    if isDigit c then (moreDigits isDigit s).map fun (ds, rest) => (c :: ds, rest)
    else if c = '_' then
      match s with
      | d :: _ =>
        if isDigit d then moreDigits isDigit s else none
      | [] => none
    else some ([], c :: s)

/-- A run of at least one digit, without its underscores. -/
def readDigits (isDigit : Char → Bool) : Reader (List Char)
  | c :: s => if isDigit c then moreDigits isDigit (c :: s) else none
  | [] => none

/-- A sign, or none. -/
def readSign : List Char → List Char × List Char
  | '+' :: s => (['+'], s)
  | '-' :: s => (['-'], s)
  | s => ([], s)

/-- The digits of a decimal number: a zero alone, or a run that does not start with one. -/
def readDecimal : Reader (List Char)
  | '0' :: s => some (['0'], s)
  | s => readDigits isDigitAscii s

/-- The number that some decimal digits write. -/
def decimalValue (ds : List Char) : Nat := ofDigitValues 10 (ds.map fun d => d.toNat - 48)

/-- An integer, if 64 bits with a sign can hold it. -/
def boundedInteger? (n : Int) : Option Value :=
  if -0x8000000000000000 ≤ n ∧ n < 0x8000000000000000 then some (.integer n) else none

/-- An integer in a base of its own, after the mark of the base. -/
def readBased (base : Nat) : Reader Value := fun s => do
  let isDigit (c : Char) : Bool := (hexValue? c).any (· < base)
  let (ds, rest) ← readDigits isDigit s
  let value ← boundedInteger? (ofDigitValues base (← ds.mapM hexValue?))
  some (value, rest)

/-- An integer. -/
def readInteger : Reader Value
  | '0' :: 'x' :: s => readBased 16 s
  | '0' :: 'o' :: s => readBased 8 s
  | '0' :: 'b' :: s => readBased 2 s
  | s => do
    let (sign, s) := readSign s
    let (ds, rest) ← readDecimal s
    let n : Int := decimalValue ds
    let value ← boundedInteger? (if sign = ['-'] then -n else n)
    some (value, rest)

/-- Whether the number `mantissa * 10 ^ exponent` is beyond all finite numbers of 64 bits. -/
def overflows (mantissa : Nat) (exponent : Int) : Bool :=
  let digits : Int := (toString mantissa).length
  if mantissa = 0 ∨ digits + exponent < 300 then false
  else if 400 < digits + exponent then true
  else
    mantissa * Nat.pow 10 exponent.toNat ≥
      (Nat.pow 2 1024 - Nat.pow 2 970) * Nat.pow 10 (-exponent).toNat

/-- The part of a number after a point. -/
def readFraction : Reader (List Char)
  | '.' :: s => readDigits isDigitAscii s
  | s => some ([], s)

/-- The exponent of a number, or zero. -/
def readExponent : Reader Int
  | c :: s =>
    if c = 'e' ∨ c = 'E' then do
      let (sign, s) := readSign s
      let (ds, rest) ← readDigits isDigitAscii s
      let n : Int := decimalValue ds
      some (if sign = ['-'] then -n else n, rest)
    else some (0, c :: s)
  | [] => some (0, [])

/-- A number with a fraction or an exponent. One that is too large is refused. -/
def readDecimalFloat : Reader Value := fun s => do
  let (sign, afterSign) := readSign s
  let (whole, afterWhole) ← readDecimal afterSign
  let (fraction, afterFraction) ← readFraction afterWhole
  let (exponent, rest) ← readExponent afterFraction
  if rest.length = afterWhole.length then none
  else if sign ≠ ['-'] ∧ overflows (decimalValue (whole ++ fraction)) (exponent - fraction.length)
  then none
  else some (.float (.ofList (s.take (s.length - rest.length))), rest)

/-- An infinite number, or none. -/
def readSpecialFloat : Reader Value := fun s =>
  let (sign, rest) := readSign s
  match afterStart? "inf".toList rest with
  | some rest => some (.float (.ofList (sign ++ "inf".toList)), rest)
  | none =>
    (afterStart? "nan".toList rest).map fun rest => (.float (.ofList (sign ++ "nan".toList)), rest)

/-! ### Dates and times -/

/-- A number of exactly `count` digits, within bounds. -/
def readFixed (count least greatest : Nat) : Reader Nat := fun s =>
  let ds := s.take count
  if ds.length = count ∧ ds.all isDigitAscii then
    let n := decimalValue ds
    if least ≤ n ∧ n ≤ greatest then some (n, s.drop count) else none
  else none

/-- The number of days of a month. -/
def daysOfMonth (year month : Nat) : Nat :=
  if month = 2 then
    if year % 4 = 0 ∧ (year % 100 ≠ 0 ∨ year % 400 = 0) then 29 else 28
  else if month ∈ [4, 6, 9, 11] then 30
  else 31

/-- A number of two digits. -/
def twoDigits (n : Nat) : String := (if n < 10 then "0" else "") ++ toString n

/-- A date, as it was written. -/
def readDate : Reader String := fun s => do
  let (year, rest) ← readFixed 4 0 9999 s
  let (month, rest) ← readFixed 2 1 12 (← afterStart? ['-'] rest)
  let (_, rest) ← readFixed 2 1 (daysOfMonth year month) (← afterStart? ['-'] rest)
  some (.ofList (s.take 10), rest)

/-- The digits of a fraction of a second that count: nine at most, without zeros at the end. -/
def fractionText (ds : List Char) : String :=
  match dropEndWhile (· == '0') (ds.take 9) with
  | [] => ""
  | ds => "." ++ .ofList ds

/-- A fraction of a second, or none. -/
def readSecondFraction : Reader String
  | '.' :: s =>
    let ds := s.takeWhile isDigitAscii
    if ds.isEmpty then none else some (fractionText ds, s.dropWhile isDigitAscii)
  | s => some ("", s)

/-- A time of day. -/
def readTime : Reader String := fun s => do
  let (hour, rest) ← readFixed 2 0 23 s
  let (minute, rest) ← readFixed 2 0 59 (← afterStart? [':'] rest)
  let (second, rest) ← readFixed 2 0 60 (← afterStart? [':'] rest)
  let (fraction, rest) ← readSecondFraction rest
  some (s!"{twoDigits hour}:{twoDigits minute}:{twoDigits second}{fraction}", rest)

/-- The distance from universal time, or none. -/
def readOffset : Reader String
  | 'Z' :: s => some ("Z", s)
  | 'z' :: s => some ("Z", s)
  | c :: s =>
    if c = '+' ∨ c = '-' then do
      let (hour, rest) ← readFixed 2 0 23 s
      let (minute, rest) ← readFixed 2 0 59 (← afterStart? [':'] rest)
      let sign := if c = '-' ∧ 0 < hour + minute then "-" else "+"
      some (s!"{sign}{twoDigits hour}:{twoDigits minute}", rest)
    else some ("", c :: s)
  | [] => some ("", [])

/-- Whether an hour and a colon stand at the beginning. -/
def startsWithHour (s : List Char) : Bool :=
  match readFixed 2 0 23 s with
  | some (_, ':' :: _) => true
  | _ => false

/-- The time after a date, with its distance from universal time, or nothing if a space or another
separator is not followed by an hour. -/
def readTimeAfterDate : Reader String
  | c :: s =>
    if (c = 'T' ∨ c = 't' ∨ c = ' ') ∧ startsWithHour s then do
      let (time, rest) ← readTime s
      let (offset, rest) ← readOffset rest
      some (s!"T{time}{offset}", rest)
    else some ("", c :: s)
  | [] => some ("", [])

/-- A date, a time, or both. -/
def readDateTime : Reader Value := fun s =>
  match readDate s with
  | some (date, rest) => do
    let (time, rest) ← readTimeAfterDate rest
    some (.dateTime (date ++ time), rest)
  | none => (readTime s).map fun (time, rest) => (.dateTime time, rest)

/-! ### Any scalar -/

/-- A date, a time or a number. -/
def readNumeric : Reader Value := fun s =>
  (readDateTime s).or <| (readDecimalFloat s).or <| (readSpecialFloat s).or (readInteger s)

/-- A value that holds no other values. -/
def readScalar : Reader Value := fun s =>
  match s.head? with
  | none => none
  | some c =>
    if c = '"' ∨ c = '\'' then (readText s).map fun (cs, rest) => (.text (.ofList cs), rest)
    else if c = 't' then (afterStart? "true".toList s).map fun rest => (.boolean true, rest)
    else if c = 'f' then (afterStart? "false".toList s).map fun rest => (.boolean false, rest)
    else if c = 'i' ∨ c = 'n' then readSpecialFloat s
    else if c = '+' ∨ c = '-' ∨ isDigitAscii c then readNumeric s
    else none

end CommitLint.Toml
