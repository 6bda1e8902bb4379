import CommitLint.Json.Basic

/-!
# Reading JSON texts

The value that a JSON text stands for. Blanks may stand between any two tokens, and a string may use
every kind of escape, so a value has many texts besides the one that `Json.render` gives. Of numbers
only the natural ones are read, since there are no others among the values.
-/

namespace CommitLint.Json

/-- Whether a character may stand between tokens. -/
def isSpace (c : Char) : Bool := [' ', '\n', '\r', '\t'].contains c

/-- A text without the blanks at its start. -/
def skipSpaces (s : List Char) : List Char := s.dropWhile isSpace

/-! ### Strings -/

/-- The number that a hexadecimal digit stands for. -/
def hexValue? (c : Char) : Option Nat :=
  if c.isDigit then some (c.toNat - 0x30)
  else if 'a' ≤ c ∧ c ≤ 'f' then some (c.toNat - 0x57)
  else if 'A' ≤ c ∧ c ≤ 'F' then some (c.toNat - 0x37)
  else none

/-- The number that four hexadecimal digits stand for. -/
def codeUnit? (a b c d : Char) : Option Nat := do
  return (((← hexValue? a) * 16 + (← hexValue? b)) * 16 + (← hexValue? c)) * 16 + (← hexValue? d)

/-- Whether a number is the first half of a character above the first plane. -/
def isHighSurrogate (n : Nat) : Bool := 0xD800 ≤ n && n ≤ 0xDBFF

/-- Whether a number is the second half of such a character. -/
def isLowSurrogate (n : Nat) : Bool := 0xDC00 ≤ n && n ≤ 0xDFFF

/-- The character that a letter stands for after a backslash. -/
def escaped? (c : Char) : Option Char :=
  [('"', '"'), ('\\', '\\'), ('/', '/'), ('b', '\x08'), ('f', '\x0c'), ('n', '\n'), ('r', '\r'),
    ('t', '\t')].lookup c

/-- The text up to the quote that ends it, and what follows the quote; `high` is the first half of a
character whose second half has to come next. -/
def readQuoted (high : Option Nat) : List Char → Option (List Char × List Char)
  | '\\' :: 'u' :: a :: b :: c :: d :: s => do
    let n ← codeUnit? a b c d
    match high with
    | some h =>
      if isLowSurrogate n then
        let (text, rest) ← readQuoted none s
        some (Char.ofNat (0x10000 + (h - 0xD800) * 0x400 + (n - 0xDC00)) :: text, rest)
      else none
    | none =>
      if isHighSurrogate n then readQuoted (some n) s
      else if isLowSurrogate n then none
      else
        let (text, rest) ← readQuoted none s
        some (Char.ofNat n :: text, rest)
  | '\\' :: c :: s => do
    let c ← if high.isSome then none else escaped? c
    let (text, rest) ← readQuoted none s
    some (c :: text, rest)
  | '"' :: s => if high.isSome then none else some ([], s)
  | c :: s => do
    if high.isSome || c = '\\' || c.toNat < 0x20 then none
    else
      let (text, rest) ← readQuoted none s
      some (c :: text, rest)
  | [] => none

/-! ### Numbers and words -/

/-- The natural number at the start of a text, and what follows it. It has no superfluous zeros, no
fraction and no exponent. -/
def readNumber (s : List Char) : Option (Nat × List Char) :=
  let digits := s.takeWhile Char.isDigit
  let rest := s.dropWhile Char.isDigit
  if digits.isEmpty || (digits.head? == some '0' && digits.length != 1) then none
  else if rest.head?.any (['.', 'e', 'E'].contains ·) then none
  else some (digits.foldl (fun n c => n * 10 + (c.toNat - 0x30)) 0, rest)

/-- The word that a text starts with, as a value, and what follows it. -/
def readWord : List Char → Option (Value × List Char)
  | 'n' :: 'u' :: 'l' :: 'l' :: s => some (.null, s)
  | 't' :: 'r' :: 'u' :: 'e' :: s => some (.bool true, s)
  | 'f' :: 'a' :: 'l' :: 's' :: 'e' :: s => some (.bool false, s)
  | _ => none

/-! ### Values

Values nest, so they are read with a depth that no text exceeds that is not longer. -/

mutual

/-- The value at the start of a text, after blanks, and what follows it. -/
def readValue : Nat → List Char → Option (Value × List Char)
  | 0, _ => none
  | depth + 1, s =>
    match skipSpaces s with
    | '"' :: s => (readQuoted none s).map fun (text, rest) => (.text (.ofList text), rest)
    | '[' :: s =>
      match skipSpaces s with
      | ']' :: rest => some (.array [], rest)
      | s => (readItems depth s).map fun (items, rest) => (.array items, rest)
    | '{' :: s =>
      match skipSpaces s with
      | '}' :: rest => some (.object [], rest)
      | s => (readMembers depth s).map fun (members, rest) => (.object members, rest)
    | c :: s =>
      if c.isDigit then (readNumber (c :: s)).map fun (n, rest) => (.number n, rest)
      else readWord (c :: s)
    | [] => none

/-- The items up to the bracket that ends them, at least one, and what follows the bracket. -/
def readItems : Nat → List Char → Option (List Value × List Char)
  | 0, _ => none
  | depth + 1, s => do
    let (item, rest) ← readValue depth s
    match skipSpaces rest with
    | ']' :: rest => some ([item], rest)
    | ',' :: rest =>
      let (items, rest) ← readItems depth rest
      some (item :: items, rest)
    | _ => none

/-- The members up to the brace that ends them, at least one, and what follows the brace. -/
def readMembers : Nat → List Char → Option (List (String × Value) × List Char)
  | 0, _ => none
  | depth + 1, s => do
    let '"' :: s := skipSpaces s | none
    let (key, rest) ← readQuoted none s
    let ':' :: rest := skipSpaces rest | none
    let (value, rest) ← readValue depth rest
    match skipSpaces rest with
    | '}' :: rest => some ([(.ofList key, value)], rest)
    | ',' :: rest =>
      let (members, rest) ← readMembers depth rest
      some ((.ofList key, value) :: members, rest)
    | _ => none

end

/-- The value that a whole text stands for, blanks around it aside. -/
def read? (s : List Char) : Option Value :=
  match readValue (s.length + 1) s with
  | some (value, rest) => if (skipSpaces rest).isEmpty then some value else none
  | none => none

end CommitLint.Json
