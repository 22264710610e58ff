import JvmSource.Unicode.Category
import JvmSource.Unicode.PropertyTables

/-!
# Character properties

The character classes that the library asks for: letters and numbers of identifiers, blanks that
trimming removes, word characters of patterns, and characters that are shown escaped.

On ASCII each class is given by a rule; the tables of the character database decide beyond it.
-/

namespace JvmSource.Unicode

/-- Whether `c` is an ASCII character. -/
def isAscii (c : Char) : Bool := c.toNat < 0x80

/-- A letter of any script. -/
def isLetter (c : Char) : Bool :=
  if isAscii c then c.isAlpha else Category.letters.any (·.contains c)

/-- A decimal digit of any script. -/
def isDecimal (c : Char) : Bool :=
  if isAscii c then c.isDigit else Category.decimalNumber.contains c

/-- A number of any script: a digit, a letter used as a number, a fraction and the like. -/
def isNumber (c : Char) : Bool :=
  if isAscii c then c.isDigit else Category.numbers.any (·.contains c)

/-- The code points of white space. -/
def blanks : Ranges := [
  (0x9, 0xD), (0x20, 0x20), (0x85, 0x85), (0xA0, 0xA0), (0x1680, 0x1680), (0x2000, 0x200A),
  (0x2028, 0x2029), (0x202F, 0x202F), (0x205F, 0x205F), (0x3000, 0x3000)]

/-- White space, line ends included. -/
def isBlank (c : Char) : Bool := blanks.contains c

/-- A character of words in natural text: letters, letter numbers and some marks and symbols. -/
def isAlphabetic (c : Char) : Bool :=
  if isAscii c then c.isAlpha
  else Category.letters.any (·.contains c) || Category.letterNumber.contains c ||
    otherAlphabetic.contains c

/-- The zero-width characters that ask for or against a join. -/
def isJoinControl (c : Char) : Bool := c.toNat == 0x200C || c.toNat == 0x200D

/-- A character that words are made of: alphabetic characters, marks, decimal digits, connectors
and join controls. -/
def isWordCharacter (c : Char) : Bool :=
  if isAscii c then c.isAlphanum || c == '_'
  else isAlphabetic c || Category.marks.any (·.contains c) || isDecimal c ||
    Category.connectorPunctuation.contains c || isJoinControl c

/-- A character that is drawn together with the one before it. -/
def isGraphemeExtend (c : Char) : Bool :=
  !isAscii c && (Category.nonspacingMark.contains c || Category.enclosingMark.contains c ||
    otherGraphemeExtend.contains c)

/-- A character with a sign of its own: neither a control, a format, a private or unassigned code
point, nor a separator other than the space. -/
def isPrintable (c : Char) : Bool :=
  c == ' ' || !(Category.others ++ Category.separators).any (·.contains c)

end JvmSource.Unicode
