import JvmSource.Unicode.Ranges

/-!
# Sets of characters

A set of characters is held as the ranges of its code points in ascending order, none of which
touches the next, so that a set is held in one way only.
-/

namespace JvmSource.Unicode

/-- A set of characters. -/
structure CharSet where
  ranges : Ranges
deriving DecidableEq, Repr

namespace CharSet

/-- Whether a character belongs to the set. -/
def contains (set : CharSet) (c : Char) : Bool := set.ranges.contains c

/-- Joins ranges in ascending order where they overlap or touch. -/
def join : Ranges → Ranges
  | (first, last) :: (first', last') :: rest =>
    if first' ≤ last + 1 then join ((first, max last last') :: rest)
    else (first, last) :: join ((first', last') :: rest)
  | ranges => ranges
termination_by ranges => ranges.length

/-- The code points that two lists of ranges in ascending order have in common. -/
def meet : Ranges → Ranges → Ranges
  | (first, last) :: rest, (first', last') :: rest' =>
    let common := (max first first', min last last')
    let more := if last < last' then meet rest ((first', last') :: rest')
      else meet ((first, last) :: rest) rest'
    if common.1 ≤ common.2 then common :: more else more
  | _, _ => []
termination_by ranges ranges' => ranges.length + ranges'.length

/-- The ranges between ranges in ascending order, from a code point on. -/
def gaps (start : Nat) : Ranges → Ranges
  | [] => [(start, 0x10FFFF)]
  | (first, last) :: rest =>
    if start < first then (start, first - 1) :: gaps (last + 1) rest else gaps (last + 1) rest

/-- The code points that are characters: all but the surrogates. -/
def characters : Ranges := [(0, 0xD7FF), (0xE000, 0x10FFFF)]

/-- The set of the code points in some ranges, in whatever order they come. -/
def ofRanges (ranges : Ranges) : CharSet :=
  ⟨join (ranges.mergeSort fun range range' => range.1 ≤ range'.1)⟩

/-- The set without members. -/
def none : CharSet := ⟨[]⟩

/-- The set of the characters between two characters, both included. -/
def range (first last : Char) : CharSet := ⟨[(first.toNat, last.toNat)]⟩

/-- The set of one character. -/
def single (c : Char) : CharSet := range c c

/-- The characters outside a set. -/
def complement (set : CharSet) : CharSet := ⟨meet (gaps 0 set.ranges) characters⟩

/-- The members of one of several sets. -/
def unions (sets : List CharSet) : CharSet := ofRanges (sets.flatMap (·.ranges))

/-- The members of one of two sets. -/
def union (left right : CharSet) : CharSet := unions [left, right]

/-- The members of both sets. -/
def intersection (left right : CharSet) : CharSet := ⟨meet left.ranges right.ranges⟩

/-- The members of the first set that are not in the second. -/
def difference (left right : CharSet) : CharSet := left.intersection right.complement

/-- The members of exactly one of two sets. -/
def symmetricDifference (left right : CharSet) : CharSet :=
  (left.difference right).union (right.difference left)

/-- Whether all members are ASCII characters. -/
def isAscii (set : CharSet) : Bool := set.ranges.all (·.2 < 0x80)

/-- The only member of the set, if it has just one. -/
def only? (set : CharSet) : Option Char :=
  match set.ranges with
  | [(first, last)] => if first = last then some (Char.ofNat first) else Option.none
  | _ => Option.none

end CharSet

end JvmSource.Unicode
