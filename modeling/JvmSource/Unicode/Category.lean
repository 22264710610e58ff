import JvmSource.Unicode.Category.Letters
import JvmSource.Unicode.Category.Marks
import JvmSource.Unicode.Category.Numbers
import JvmSource.Unicode.Category.Punctuation
import JvmSource.Unicode.Category.Symbols
import JvmSource.Unicode.Category.Others
import JvmSource.Unicode.CharSet

/-!
# General categories

Every code point has exactly one general category. A code point in none of the tables is unassigned.
-/

namespace JvmSource.Unicode

/-- The general categories of the Unicode character database. -/
inductive Category where
  | uppercaseLetter | lowercaseLetter | titlecaseLetter | modifierLetter | otherLetter
  | nonspacingMark | spacingMark | enclosingMark
  | decimalNumber | letterNumber | otherNumber
  | connectorPunctuation | dashPunctuation | openPunctuation | closePunctuation
  | initialPunctuation | finalPunctuation | otherPunctuation
  | mathSymbol | currencySymbol | modifierSymbol | otherSymbol
  | spaceSeparator | lineSeparator | paragraphSeparator
  | control | format | surrogate | privateUse | unassigned
deriving DecidableEq, Repr

namespace Category

/-- The table of a category; that of the unassigned code points is left empty. -/
def ranges : Category → Ranges
  | uppercaseLetter => uppercaseLetters
  | lowercaseLetter => lowercaseLetters
  | titlecaseLetter => titlecaseLetters
  | modifierLetter => modifierLetters
  | otherLetter => otherLetters
  | nonspacingMark => nonspacingMarks
  | spacingMark => spacingMarks
  | enclosingMark => enclosingMarks
  | decimalNumber => decimalNumbers
  | letterNumber => letterNumbers
  | otherNumber => otherNumbers
  | connectorPunctuation => Unicode.connectorPunctuation
  | dashPunctuation => Unicode.dashPunctuation
  | openPunctuation => Unicode.openPunctuation
  | closePunctuation => Unicode.closePunctuation
  | initialPunctuation => Unicode.initialPunctuation
  | finalPunctuation => Unicode.finalPunctuation
  | otherPunctuation => Unicode.otherPunctuation
  | mathSymbol => mathSymbols
  | currencySymbol => currencySymbols
  | modifierSymbol => modifierSymbols
  | otherSymbol => otherSymbols
  | spaceSeparator => spaceSeparators
  | lineSeparator => lineSeparators
  | paragraphSeparator => paragraphSeparators
  | control => controls
  | format => formats
  | surrogate => surrogates
  | privateUse => Unicode.privateUse
  | unassigned => []

/-- The kinds of letters. -/
def letters : List Category :=
  [uppercaseLetter, lowercaseLetter, titlecaseLetter, modifierLetter, otherLetter]

/-- The letters that have a case. -/
def casedLetters : List Category := [uppercaseLetter, lowercaseLetter, titlecaseLetter]

/-- The kinds of combining marks. -/
def marks : List Category := [nonspacingMark, spacingMark, enclosingMark]

/-- The kinds of numbers. -/
def numbers : List Category := [decimalNumber, letterNumber, otherNumber]

/-- The kinds of punctuation. -/
def punctuation : List Category :=
  [connectorPunctuation, dashPunctuation, openPunctuation, closePunctuation,
    initialPunctuation, finalPunctuation, otherPunctuation]

/-- The kinds of symbols. -/
def symbols : List Category := [mathSymbol, currencySymbol, modifierSymbol, otherSymbol]

/-- The kinds of separators. -/
def separators : List Category := [spaceSeparator, lineSeparator, paragraphSeparator]

/-- Everything that is not a graphic character or a separator. -/
def others : List Category := [control, format, surrogate, privateUse, unassigned]

/-- The categories that have a table. -/
def assigned : List Category :=
  letters ++ marks ++ numbers ++ punctuation ++ symbols ++ separators ++
    [control, format, surrogate, privateUse]

/-- Whether a character has the category. -/
def contains (category : Category) (c : Char) : Bool :=
  match category with
  | unassigned => !assigned.any (·.ranges.contains c)
  | _ => category.ranges.contains c

/-- The characters of a category. -/
def set : Category → CharSet
  | unassigned => (CharSet.ofRanges (assigned.flatMap ranges)).complement
  | category => .ofRanges category.ranges

/-- The characters of several categories. -/
def sets (categories : List Category) : CharSet := .unions (categories.map set)

end Category

end JvmSource.Unicode
