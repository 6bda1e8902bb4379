import CommitLint.Text.Letter
import CommitLint.Text.Letter.CaseMap

/-!
# Lower and upper case

The full Unicode mappings of a text. One rule looks at the neighbours: a capital sigma becomes a
final sigma when a cased letter stands before it and none after it, marks and the like aside.
-/

namespace CommitLint.Text

/-- The character at a signed distance from a code point. -/
def shiftedChar (n : Nat) (offset : Int) : Char := Char.ofNat ((n : Int) + offset).toNat

/-- The image of a code point under a table of shifts and a table of expansions. -/
def mapCase (shifts : List CaseShift) (expansions : List (Nat × List Nat)) (c : Char) :
    List Char :=
  match expansions.lookup c.toNat with
  | some ns => ns.map Char.ofNat
  | none =>
    match shifts.find? (·.codes.contains c.toNat) with
    | some shift => [shiftedChar c.toNat shift.offset]
    | none => [c]

/-- The lower case of a character, apart from its neighbours. -/
def lowerChar (c : Char) : List Char :=
  if isAscii c then [if isCapitalAscii c then shiftedChar c.toNat 32 else c]
  else mapCase lowerShifts lowerExpansions c

/-- The upper case of a character. -/
def upperChar (c : Char) : List Char :=
  if isAscii c then [if isSmallAscii c then shiftedChar c.toNat (-32) else c]
  else mapCase upperShifts upperExpansions c

/-- Whether the first character that is not case-ignorable is cased. -/
def nextIsCased (s : List Char) : Bool :=
  match s.dropWhile isCaseIgnorable with
  | [] => false
  | c :: _ => isCased c

/-- Lower case with the characters before, nearest first, as context for the sigma rule. -/
def lowerAfter (before : List Char) : List Char → List Char
  | [] => []
  | c :: s =>
    (if c = 'Σ' then [if nextIsCased before && !nextIsCased s then 'ς' else 'σ']
      else lowerChar c) ++ lowerAfter (c :: before) s

/-- The lower case of a text. -/
def lower (s : List Char) : List Char := lowerAfter [] s

/-- The upper case of a text. -/
def upper (s : List Char) : List Char := s.flatMap upperChar

/-- The lower case of a character within ASCII; other characters stay. -/
def asciiLower (c : Char) : Char := if isCapitalAscii c then shiftedChar c.toNat 32 else c

/-- Whether two texts differ at most in the case of ASCII letters. -/
def sameIgnoringAsciiCase (s t : List Char) : Bool := s.map asciiLower == t.map asciiLower

end CommitLint.Text
