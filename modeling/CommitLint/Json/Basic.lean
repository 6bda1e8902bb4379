/-!
# JSON values and their text

The values that a report is made of, and the text of a value: members and items on lines of their
own, two spaces further in than what they belong to. Of the characters in a string only quotes,
backslashes and control characters are written as escapes.
-/

namespace CommitLint.Json

/-- A JSON value. Numbers are natural numbers, and the members of an object keep their order. -/
inductive Value where
  | null
  | bool (b : Bool)
  | number (n : Nat)
  | text (s : String)
  | array (items : List Value)
  | object (members : List (String × Value))
  deriving Repr, Inhabited

/-- The digit of a number below sixteen. -/
def hexDigit (n : Nat) : Char := "0123456789abcdef".toList.getD n '0'

/-- How a character is written within quotes. -/
def escapeChar (c : Char) : List Char :=
  if c = '"' then ['\\', '"']
  else if c = '\\' then ['\\', '\\']
  else if c = '\n' then ['\\', 'n']
  else if c = '\r' then ['\\', 'r']
  else if c = '\t' then ['\\', 't']
  else if c = '\x08' then ['\\', 'b']
  else if c = '\x0c' then ['\\', 'f']
  else if c.toNat < 0x20 then
    ['\\', 'u', '0', '0', hexDigit (c.toNat / 16), hexDigit (c.toNat % 16)]
  else [c]

/-- A text in quotes. -/
def quoted (s : String) : List Char := '"' :: s.toList.flatMap escapeChar ++ ['"']

/-- A new line that begins with some spaces. -/
def newline (indent : Nat) : List Char := '\n' :: List.replicate indent ' '

mutual

/-- The text of a value that stands `indent` spaces in. -/
def render (indent : Nat) : Value → List Char
  | .null => "null".toList
  | .bool b => (toString b).toList
  | .number n => (toString n).toList
  | .text s => quoted s
  | .array [] => "[]".toList
  | .array (v :: vs) =>
    '[' :: newline (indent + 2) ++ render (indent + 2) v ++ renderItems (indent + 2) vs ++
      newline indent ++ [']']
  | .object [] => "\x7b\x7d".toList
  | .object ((k, v) :: ms) =>
    '{' :: newline (indent + 2) ++ quoted k ++ [':', ' '] ++ render (indent + 2) v ++
      renderMembers (indent + 2) ms ++ newline indent ++ ['}']

/-- The text of items after another one, each on a line of its own. -/
def renderItems (indent : Nat) : List Value → List Char
  | [] => []
  | v :: vs => ',' :: newline indent ++ render indent v ++ renderItems indent vs

/-- The text of members after another one, each on a line of its own. -/
def renderMembers (indent : Nat) : List (String × Value) → List Char
  | [] => []
  | (k, v) :: ms =>
    ',' :: newline indent ++ quoted k ++ [':', ' '] ++ render indent v ++ renderMembers indent ms

end

/-- The text of a whole document. -/
def document (v : Value) : String := .ofList (render 0 v)

end CommitLint.Json
