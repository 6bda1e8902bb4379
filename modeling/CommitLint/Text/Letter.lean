import CommitLint.Text.Letter.Alphabetic
import CommitLint.Text.Letter.Cased
import CommitLint.Text.Letter.Mark
import CommitLint.Text.Letter.Numeric

/-!
# Letters, digits and word characters

Character classes by Unicode property. Each has its ASCII part written out, so that ordinary text
never reaches a table, and a table for the rest.
-/

namespace CommitLint.Text

/-- Whether a character is one of `A` to `Z`. -/
def isCapitalAscii (c : Char) : Bool := 'A' ≤ c && c ≤ 'Z'

/-- Whether a character is one of `a` to `z`. -/
def isSmallAscii (c : Char) : Bool := 'a' ≤ c && c ≤ 'z'

/-- Whether a character is one of `0` to `9`. -/
def isDigitAscii (c : Char) : Bool := '0' ≤ c && c ≤ '9'

/-- Whether a character is one of the first 128. -/
def isAscii (c : Char) : Bool := c.toNat < 0x80

/-- An ASCII letter, digit or underscore. -/
def isNameChar (c : Char) : Bool :=
  isCapitalAscii c || isSmallAscii c || isDigitAscii c || c == '_'

/-- Whether a character has the property `Alphabetic`. -/
def isAlphabetic (c : Char) : Bool :=
  if isAscii c then isCapitalAscii c || isSmallAscii c else inRanges alphabeticRanges c.toNat

/-- Whether a character is a decimal digit of some script. -/
def isDecimal (c : Char) : Bool :=
  if isAscii c then isDigitAscii c else inRanges decimalRanges c.toNat

/-- Whether a character is a number of some kind. -/
def isNumeric (c : Char) : Bool :=
  if isAscii c then isDigitAscii c else inRanges numericRanges c.toNat

/-- A letter or a number. -/
def isAlphanumeric (c : Char) : Bool := isAlphabetic c || isNumeric c

/-- Whether a character has the property `Uppercase`. -/
def isUppercase (c : Char) : Bool :=
  if isAscii c then isCapitalAscii c else inRanges uppercaseRanges c.toNat

/-- Whether a character has the property `Lowercase`. -/
def isLowercase (c : Char) : Bool :=
  if isAscii c then isSmallAscii c else inRanges lowercaseRanges c.toNat

/-- Whether a character is an uppercase, lowercase or titlecase letter. -/
def isCased (c : Char) : Bool :=
  isUppercase c || isLowercase c || (!isAscii c && inRanges titlecaseRanges c.toNat)

/-- Whether a character does not separate a letter from the rest of its word. -/
def isCaseIgnorable (c : Char) : Bool := inRanges caseIgnorableRanges c.toNat

/-- A character of a word: alphabetic, a mark, a decimal digit, a connector or a joiner. -/
def isWordChar (c : Char) : Bool :=
  if isAscii c then isNameChar c
  else
    inRanges alphabeticRanges c.toNat || inRanges markRanges c.toNat ||
    inRanges decimalRanges c.toNat || inRanges connectorRanges c.toNat ||
    c.toNat == 0x200C || c.toNat == 0x200D

end CommitLint.Text
