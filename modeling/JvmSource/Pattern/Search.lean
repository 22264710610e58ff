import JvmSource.Pattern.Basic

/-!
# Searching a text for a pattern

A set of positions is a natural number whose bit `i` stands for position `i`. Each part of a pattern
takes the positions where it may start to the positions where it may end, so a search is one walk
over the pattern. Repetition follows the matches until no new position is reached.
-/

namespace JvmSource.Pattern

/-- A pattern prepared for one text: its character sets and anchors are replaced by the positions
where they hold. -/
inductive Moves where
  | stay (positions : Nat)
  | step (positions : Nat)
  | sequence (first second : Moves)
  | either (left right : Moves)
  | repeated (least : Nat) (most : Option Nat) (body : Moves)

/-- The positions of a list that satisfy a test. -/
def positionsWhere {α : Type} (test : α → Bool) : List α → Nat
  | [] => 0
  | x :: xs => (test x).toNat + 2 * positionsWhere test xs

/-- The characters before and after each position of a text. -/
def neighbours : (before : Option Char) → Text → List (Option Char × Option Char)
  | before, [] => [(before, none)]
  | before, c :: rest => (before, some c) :: neighbours (some c) rest

/-- Prepares a pattern for a text. -/
def prepare (text : Text) : Pattern → Moves
  | empty => .stay (Nat.pow 2 (text.length + 1) - 1)
  | one set => .step (positionsWhere set.contains text)
  | anchor a =>
    .stay (positionsWhere (fun around => a.holds around.1 around.2) (neighbours none text))
  | sequence first second => .sequence (first.prepare text) (second.prepare text)
  | either left right => .either (left.prepare text) (right.prepare text)
  | repeated least most body => .repeated least most (body.prepare text)
  | group _ body => body.prepare text

/-- Applies a function a number of times. -/
def iterate (f : Nat → Nat) : (count : Nat) → Nat → Nat
  | 0, positions => positions
  | count + 1, positions => iterate f count (f positions)

/-- The positions reached from `starts` by applying a function at most `count` times. -/
def reach (f : Nat → Nat) (starts : Nat) : (count : Nat) → Nat → Nat
  | 0, reached => reached
  | count + 1, reached =>
    let more := starts ||| f reached
    if more = reached then reached else reach f starts count more

/-- The positions where a match can end that starts at one of the given positions. A text of `size`
characters has `size + 1` positions, so more rounds than that reach nothing new. -/
def Moves.run (size : Nat) : Moves → Nat → Nat
  | stay positions, starts => starts &&& positions
  | step positions, starts => (starts &&& positions) <<< 1
  | sequence first second, starts => second.run size (first.run size starts)
  | either left right, starts => left.run size starts ||| right.run size starts
  | repeated least most body, starts =>
    let after := iterate (body.run size) (min least (size + 1)) starts
    let rounds := match most with
      | none => size + 1
      | some most => min (most - least) (size + 1)
    reach (body.run size) after rounds after

/-- Whether a pattern is found in a text. -/
def search (p : Pattern) (text : Text) : Bool :=
  (p.prepare text).run text.length (Nat.pow 2 (text.length + 1) - 1) != 0

end JvmSource.Pattern
