import JvmSource.Pattern.Basic
import JvmSource.Pattern.PropertyName
import JvmSource.Pattern.Reader
import JvmSource.Pattern.Size

/-!
# The meaning of pattern expressions

Flags are resolved here: a change of flags holds for the rest of its group. Folding by case comes
before negation, so `(?i)[^a]` excludes both `a` and `A`. Outside Unicode mode a pattern that could
match something other than an ASCII character where a class stands is refused.
-/

namespace JvmSource

namespace Pattern

open Unicode (CharSet)

/-- The flags in force. -/
structure Flags where
  caseless : Bool := false
  multiLine : Bool := false
  dotAll : Bool := false
  unicode : Bool := true
  returns : Bool := false

namespace Flags

/-- The flags after a change. The order of greedy and lazy repetition and the treatment of blanks
make no difference to what is found. -/
def apply (flags : Flags) (change : FlagChange) : Flags where
  caseless := (valueOf? .caseless change).getD flags.caseless
  multiLine := (valueOf? .multiLine change).getD flags.multiLine
  dotAll := (valueOf? .dotAll change).getD flags.dotAll
  unicode := (valueOf? .unicode change).getD flags.unicode
  returns := (valueOf? .returns change).getD flags.returns

/-- Adds the other case of the members, if case is ignored. -/
def fold (flags : Flags) (set : CharSet) : CharSet :=
  if !flags.caseless then set else if flags.unicode then set.anyCase else set.anyAsciiCase

/-- The characters outside a set, where they may be asked for. -/
def negate? (flags : Flags) (negated : Bool) (set : CharSet) : Option CharSet :=
  if !negated then some set else if flags.unicode then some set.complement else none

end Flags

/-- The ASCII characters of a POSIX class. -/
def PosixClass.set : PosixClass → CharSet
  | alnum => .unions [.range '0' '9', .range 'A' 'Z', .range 'a' 'z']
  | alpha => .unions [.range 'A' 'Z', .range 'a' 'z']
  | ascii => .range '\x00' '\x7F'
  | blank => .unions [.single '\t', .single ' ']
  | cntrl => .unions [.range '\x00' '\x1F', .single '\x7F']
  | digit => .range '0' '9'
  | graph => .range '!' '~'
  | lower => .range 'a' 'z'
  | print => .range ' ' '~'
  | punct => .unions [.range '!' '/', .range ':' '@', .range '[' '\x60', .range '\x7B' '~']
  | space => .unions [.range '\t' '\r', .single ' ']
  | upper => .range 'A' 'Z'
  | word => .unions [.range '0' '9', .range 'A' 'Z', .single '_', .range 'a' 'z']
  | xdigit => .unions [.range '0' '9', .range 'A' 'F', .range 'a' 'f']

/-- The characters that words are made of. -/
def wordSet : CharSet :=
  .unions [Unicode.BinaryProperty.alphabetic.set, Unicode.BinaryProperty.joinControl.set,
    Unicode.Category.sets (.decimalNumber :: .connectorPunctuation :: Unicode.Category.marks)]

/-- The set of a class with a one-letter escape. -/
def LetterClass.set (flags : Flags) : LetterClass → CharSet
  | digit => if flags.unicode then Unicode.Category.decimalNumber.set else PosixClass.digit.set
  | space => if flags.unicode then .ofRanges Unicode.blanks else PosixClass.space.set
  | word => if flags.unicode then wordSet else PosixClass.word.set

/-- The set of a property, which only Unicode mode has. -/
def propertyOf? (flags : Flags) (name : Text) (negated : Bool) : Option CharSet :=
  if flags.unicode then do
    let (set, others) ← propertySet? name
    flags.negate? (negated != others) (flags.fold set)
  else none

/-- A written character, outside Unicode mode only if it is not the escape of a byte above ASCII. -/
def Literal.char? (flags : Flags) (literal : Literal) : Option Char :=
  if flags.unicode || !literal.byte || Unicode.isAscii literal.char then some literal.char else none

/-- A written character inside brackets, outside Unicode mode only an ASCII one. -/
def Literal.member? (flags : Flags) (literal : Literal) : Option Char :=
  if flags.unicode || Unicode.isAscii literal.char then some literal.char else none

mutual

/-- The set of a bracket expression. -/
def SetExpr.meaning? (flags : Flags) : SetExpr → Option CharSet
  | .empty => some .none
  | .literal l => (l.member? flags).map .single
  | .range first last => return .range (← first.member? flags) (← last.member? flags)
  | .letter kind negated => flags.negate? negated (kind.set flags)
  | .posix kind negated => flags.negate? negated (flags.fold kind.set)
  | .property name negated => propertyOf? flags name negated
  | .bracketed set negated => do flags.negate? negated (flags.fold (← set.meaning? flags))
  | .union items => return .unions (← SetExpr.meanings? flags items)
  | .binary operator left right => do
    let left := flags.fold (← left.meaning? flags)
    let right := flags.fold (← right.meaning? flags)
    return match operator with
      | .intersection => left.intersection right
      | .difference => left.difference right
      | .symmetricDifference => left.symmetricDifference right

/-- The sets of several bracket expressions. -/
def SetExpr.meanings? (flags : Flags) : List SetExpr → Option (List CharSet)
  | [] => some []
  | item :: items => return (← item.meaning? flags) :: (← SetExpr.meanings? flags items)

end

/-- The anchor of an assertion. -/
def Assertion.anchor (flags : Flags) : Assertion → Anchor
  | lineStart => if flags.multiLine then .lineStart flags.returns else .textStart
  | lineEnd => if flags.multiLine then .lineEnd flags.returns else .textEnd
  | textStart => .textStart
  | textEnd => .textEnd
  | wordBoundary => .wordBoundary flags.unicode
  | notWordBoundary => .notWordBoundary flags.unicode
  | wordStart => .wordStart flags.unicode
  | wordEnd => .wordEnd flags.unicode
  | wordStartHalf => .wordStartHalf flags.unicode
  | wordEndHalf => .wordEndHalf flags.unicode

/-- The characters that a dot stands for. -/
def dotSet? (flags : Flags) : Option CharSet :=
  let excluded := if flags.dotAll then .none
    else if flags.returns then .unions [.single '\n', .single '\r'] else .single '\n'
  flags.negate? true excluded

mutual

/-- The pattern of an expression, and the flags that hold after it. -/
def Expr.meaning? (flags : Flags) : Expr → Option (Pattern × Flags)
  | .empty => some (.empty, flags)
  | .flags change => some (.empty, flags.apply change)
  | .literal l => return (.one (flags.fold (.single (← l.char? flags))), flags)
  | .dot => return (.one (← dotSet? flags), flags)
  | .assertion a => some (.anchor (a.anchor flags), flags)
  | .letter kind negated => return (.one (← flags.negate? negated (kind.set flags)), flags)
  | .property name negated => return (.one (← propertyOf? flags name negated), flags)
  | .bracketed set negated =>
    return (.one (← flags.negate? negated (flags.fold (← set.meaning? flags))), flags)
  | .repeated least most body => do
    let (body, flags) ← body.meaning? flags
    return (.repeated least most body, flags)
  | .group change body => do
    let (body, _) ← body.meaning? (flags.apply change)
    return (.group false body, flags)
  | .capture body => do
    let (body, _) ← body.meaning? flags
    return (.group true body, flags)
  | .either branches => do
    let (branches, flags) ← Expr.meanings? flags branches
    return (eithers branches, flags)
  | .sequence parts => do
    let (parts, flags) ← Expr.meanings? flags parts
    return (sequences parts, flags)

/-- The patterns of consecutive expressions, each under the flags that the one before leaves. -/
def Expr.meanings? (flags : Flags) : List Expr → Option (List Pattern × Flags)
  | [] => some ([], flags)
  | expr :: exprs => do
    let (pattern, flags) ← expr.meaning? flags
    let (patterns, flags) ← Expr.meanings? flags exprs
    return (pattern :: patterns, flags)

end

/-- Reads a pattern. One that is too large is refused. -/
def parse? (text : Text) : Option Pattern := do
  let expr ← readExpr? text
  let (pattern, _) ← expr.meaning? {}
  if pattern.isAffordable then return pattern else none

end Pattern

end JvmSource
