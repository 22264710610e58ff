import JvmSource.Text.Basic

/-!
# Pattern expressions

The written form of a pattern as a tree, before flags and character properties are given their
meaning.
-/

namespace JvmSource.Pattern

/-- A switch that changes how the rest of a group is understood. -/
inductive Flag where
  | caseless
  | multiLine
  | dotAll
  | swapGreed
  | unicode
  | returns
  | verbose
deriving DecidableEq, Repr

/-- Switches turned on or off, in the order they are written. -/
abbrev FlagChange := List (Flag × Bool)

/-- The classes with a one-letter escape. -/
inductive LetterClass where
  | digit
  | space
  | word
deriving DecidableEq, Repr

/-- The classes of POSIX, which hold ASCII characters only. -/
inductive PosixClass where
  | alnum | alpha | ascii | blank | cntrl | digit | graph | lower | print | punct | space | upper
  | word | xdigit
deriving DecidableEq, Repr

/-- A written condition on a position. -/
inductive Assertion where
  | lineStart | lineEnd | textStart | textEnd
  | wordBoundary | notWordBoundary | wordStart | wordEnd | wordStartHalf | wordEndHalf
deriving DecidableEq, Repr

/-- A character as it is written; `byte` marks a two-digit hexadecimal escape. -/
structure Literal where
  char : Char
  byte : Bool
deriving DecidableEq, Repr

/-- What joins two sets inside brackets. -/
inductive SetOperator where
  | intersection
  | difference
  | symmetricDifference
deriving DecidableEq, Repr

/-- A set of characters between brackets. -/
inductive SetExpr where
  | empty
  | literal (literal : Literal)
  | range (first last : Literal)
  | letter (kind : LetterClass) (negated : Bool)
  | posix (kind : PosixClass) (negated : Bool)
  | property (name : Text) (negated : Bool)
  | bracketed (set : SetExpr) (negated : Bool)
  | union (items : List SetExpr)
  | binary (operator : SetOperator) (left right : SetExpr)

/-- A written pattern. -/
inductive Expr where
  | empty
  | flags (change : FlagChange)
  | literal (literal : Literal)
  | dot
  | assertion (assertion : Assertion)
  | letter (kind : LetterClass) (negated : Bool)
  | property (name : Text) (negated : Bool)
  | bracketed (set : SetExpr) (negated : Bool)
  | repeated (least : Nat) (most : Option Nat) (body : Expr)
  /-- A group with flags of its own. -/
  | group (change : FlagChange) (body : Expr)
  /-- A group that remembers what it matched. -/
  | capture (body : Expr)
  | either (branches : List Expr)
  | sequence (parts : List Expr)

mutual

/-- The nesting depth of a set. -/
def SetExpr.height : SetExpr → Nat
  | .bracketed set _ => set.height + 1
  | .union items => SetExpr.maxHeight items + 1
  | .binary _ left right => max left.height right.height + 1
  | _ => 0

/-- The greatest nesting depth of several sets. -/
def SetExpr.maxHeight : List SetExpr → Nat
  | [] => 0
  | set :: sets => max set.height (SetExpr.maxHeight sets)

end

mutual

/-- The nesting depth of a pattern. -/
def Expr.height : Expr → Nat
  | .bracketed set _ => set.height + 1
  | .repeated _ _ body => body.height + 1
  | .group _ body => body.height + 1
  | .capture body => body.height + 1
  | .either branches => Expr.maxHeight branches + 1
  | .sequence parts => Expr.maxHeight parts + 1
  | _ => 0

/-- The greatest nesting depth of several patterns. -/
def Expr.maxHeight : List Expr → Nat
  | [] => 0
  | expr :: exprs => max expr.height (Expr.maxHeight exprs)

end

end JvmSource.Pattern
