import JvmSource.Text.Basic
import JvmSource.Unicode.CharSet

/-!
# Patterns and what they match

A pattern matches stretches of a text. `Matches text p i j` says that pattern `p` matches the
characters of `text` between the positions `i` and `j`; position `i` stands before character `i`.
-/

namespace JvmSource

/-- A condition on the characters around a position. -/
inductive Pattern.Anchor where
  | textStart
  | textEnd
  /-- The start of a line; with `returns`, carriage returns end lines as line feeds do. -/
  | lineStart (returns : Bool)
  | lineEnd (returns : Bool)
  /-- The border of a word, of ASCII characters only unless `wide`. -/
  | wordBoundary (wide : Bool)
  | notWordBoundary (wide : Bool)
  | wordStart (wide : Bool)
  | wordEnd (wide : Bool)
  /-- Not after a word character. -/
  | wordStartHalf (wide : Bool)
  /-- Not before a word character. -/
  | wordEndHalf (wide : Bool)
deriving DecidableEq, Repr

/-- A regular expression. -/
inductive Pattern where
  | empty
  | one (set : Unicode.CharSet)
  | anchor (anchor : Pattern.Anchor)
  | sequence (first second : Pattern)
  | either (left right : Pattern)
  /-- Repeats a pattern at least `least` times and, if there is a limit, at most `most` times. -/
  | repeated (least : Nat) (most : Option Nat) (body : Pattern)
  /-- A group; some groups remember what they matched. -/
  | group (remembers : Bool) (body : Pattern)
deriving DecidableEq, Repr

namespace Pattern

/-- Whether an optional character is a word character. -/
def isWord (wide : Bool) : Option Char → Bool
  | none => false
  | some c => Unicode.isWordCharacter c && (wide || Unicode.isAscii c)

/-- Whether the anchor holds between the characters before and after a position; there is none at
the ends of the text. -/
def Anchor.holds : Anchor → (before after : Option Char) → Bool
  | textStart, before, _ => before.isNone
  | textEnd, _, after => after.isNone
  | lineStart false, before, _ => before.all (· == '\n')
  | lineStart true, before, after =>
    before.all fun c => c == '\n' || c == '\r' && after != some '\n'
  | lineEnd false, _, after => after.all (· == '\n')
  | lineEnd true, before, after =>
    after.all fun c => c == '\r' || c == '\n' && before != some '\r'
  | wordBoundary wide, before, after => isWord wide before != isWord wide after
  | notWordBoundary wide, before, after => isWord wide before == isWord wide after
  | wordStart wide, before, after => !isWord wide before && isWord wide after
  | wordEnd wide, before, after => isWord wide before && !isWord wide after
  | wordStartHalf wide, before, _ => !isWord wide before
  | wordEndHalf wide, _, after => !isWord wide after

/-- The character before a position. -/
def before? (text : Text) : Nat → Option Char
  | 0 => none
  | i + 1 => text[i]?

/-- `Matches text p i j`: pattern `p` matches the text between positions `i` and `j`. -/
inductive Matches (text : Text) : Pattern → Nat → Nat → Prop where
  | empty {i} (bound : i ≤ text.length) : Matches text .empty i i
  | one {set i c} (char : text[i]? = some c) (member : set.contains c = true) :
      Matches text (.one set) i (i + 1)
  | anchor {a i} (bound : i ≤ text.length) (holds : a.holds (before? text i) text[i]? = true) :
      Matches text (.anchor a) i i
  | sequence {p q i j k} (first : Matches text p i j) (second : Matches text q j k) :
      Matches text (.sequence p q) i k
  | left {p q i j} (left : Matches text p i j) : Matches text (.either p q) i j
  | right {p q i j} (right : Matches text q i j) : Matches text (.either p q) i j
  | done {most p i} (bound : i ≤ text.length) : Matches text (.repeated 0 most p) i i
  | again {least most p i j k} (room : most ≠ some 0) (first : Matches text p i j)
      (rest : Matches text (.repeated (least - 1) (most.map (· - 1)) p) j k) :
      Matches text (.repeated least most p) i k
  | group {remembers p i j} (body : Matches text p i j) : Matches text (.group remembers p) i j

/-- A pattern is found in a text when it matches some stretch of it. -/
def FoundIn (p : Pattern) (text : Text) : Prop := ∃ i j, Matches text p i j

end Pattern

end JvmSource
