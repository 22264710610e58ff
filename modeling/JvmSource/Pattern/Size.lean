import JvmSource.Pattern.Simplified
import JvmSource.Unicode.ByteSequences

/-!
# The size of patterns

For a pattern two automata over the bytes of UTF-8 are built, one that reads texts forward and one
that reads them backward. A pattern for which either would take more than ten mebibytes is refused.
The sizes are computed without building the automata, so that repetition costs nothing here.

A state takes 32 bytes. A state that several transitions leave, each for a range of bytes, takes 8
more for each of them; a state that branches without reading takes 4 more for each branch.
-/

namespace JvmSource.Pattern

open Unicode (ByteSequence CharSet)

/-- The largest size that an automaton may have. -/
def maxSize : Nat := 10 * Nat.pow 2 20

/-- The size of some states. -/
def statesSize (count : Nat) : Nat := 32 * count

/-- The size of some transitions. -/
def transitionsSize (count : Nat) : Nat := 8 * count

/-- The size of some branches. -/
def branchesSize (count : Nat) : Nat := 4 * count

/-- The way in which an automaton reads a text. -/
inductive Direction where
  | forward
  | backward
deriving DecidableEq, Repr

/-! ## Characters -/

/-- Groups sequences in order by their first range; what is left of them stays in order. -/
def groupByHead : List ByteSequence → List ((Nat × Nat) × List ByteSequence)
  | [] => []
  | [] :: sequences => groupByHead sequences
  | (head :: tail) :: sequences =>
    match groupByHead sequences with
    | (head', tails) :: groups =>
      if head = head' then (head, tail :: tails) :: groups
      else (head, [tail]) :: (head', tails) :: groups
    | [] => [(head, [tail])]

/-- The states that read one of the given sequences, which have at most `length` ranges. A state is
known by what remains to be read from it, and one that remains in two places is built once. -/
def forwardStates : (length : Nat) → List ByteSequence → List (List ByteSequence)
  | 0, _ => []
  | length + 1, sequences =>
    sequences :: (groupByHead sequences).flatMap fun (_, tails) =>
      if tails.all (·.isEmpty) then [] else forwardStates length tails

/-- The number of ranges that two sequences both begin with. -/
def sharedLength : ByteSequence → ByteSequence → Nat
  | range :: rest, range' :: rest' => if range = range' then sharedLength rest rest' + 1 else 0
  | _, _ => 0

/-- The number of states that read one of the given sequences backward, where those that begin with
the same ranges share the states for these. -/
def backwardCount : (before : ByteSequence) → List ByteSequence → Nat
  | _, [] => 0
  | before, next :: sequences =>
    next.length - sharedLength before next + backwardCount next sequences

/-- The size of the states that read a character of a set. -/
def setSize (direction : Direction) (set : CharSet) : Nat :=
  match set.only? with
  | some c => statesSize c.utf8Size
  | none =>
    if set.isAscii then statesSize 2 + transitionsSize set.ranges.length
    else
      let sequences := set.ranges.byteSequences
      match direction with
      | .forward =>
        let states := (forwardStates 4 sequences).eraseDups
        statesSize (states.length + 1) +
          transitionsSize (states.foldl (fun size state => size + (groupByHead state).length) 0)
      | .backward =>
        statesSize (backwardCount [] sequences + 2) + branchesSize sequences.length

/-! ## Words -/

/-- The bytes that a pattern matches, if it matches one particular text. -/
def word? (p : Pattern) : Option (List UInt8) := do
  let chars ← p.parts.mapM fun
    | one set => set.only?
    | _ => none
  if chars.isEmpty then none else some (chars.flatMap String.utf8EncodeChar)

/-- Adds a word to words grouped by their first byte. -/
def addWord (byte : UInt8) (rest : List UInt8) :
    List (UInt8 × List (List UInt8)) → List (UInt8 × List (List UInt8))
  | [] => [(byte, [rest])]
  | (byte', rests) :: groups =>
    if byte = byte' then (byte', rests ++ [rest]) :: groups
    else (byte', rests) :: addWord byte rest groups

/-- The words that share a state, in the stretches between those that end there, where each stretch
is grouped by first bytes. -/
def stretches (words : List (List UInt8)) : List (List (UInt8 × List (List UInt8))) :=
  words.foldl
    (fun stretches word =>
      match word, stretches with
      | [], [] => [[], []]
      | [], stretch :: more =>
        -- an end where nothing goes on is counted once
        if stretch.isEmpty && more.all (·.isEmpty) && !more.isEmpty then stretches
        else [] :: stretches
      | byte :: rest, [] => [[(byte, [rest])]]
      | byte :: rest, stretch :: more => addWord byte rest stretch :: more)
    [[]]

/-- The size of the states that read one of several words, of at most `length` bytes, from a state
that they share. -/
def wordsSize : (length : Nat) → List (List UInt8) → Nat
  | 0, _ => 0
  | length + 1, words =>
    let stretches := stretches words
    let readers := stretches.filter (!·.isEmpty)
    let several := readers.filter (2 ≤ ·.length)
    let inner := (stretches.flatten.filter fun group => group.2.any (!·.isEmpty)).map fun group =>
      wordsSize length group.2
    statesSize (readers.length + 1) + transitionsSize (several.map (·.length)).sum +
      branchesSize (readers.length + (stretches.length - 1)) + inner.sum

/-- The size of an automaton for one of several words. -/
def dictionarySize (direction : Direction) (words : List (List UInt8)) : Nat :=
  let words := match direction with
    | .forward => words
    | .backward => words.map List.reverse
  statesSize 1 + wordsSize ((words.map List.length).foldl max 0) words

/-! ## Patterns -/

/-- The size of a repetition of a part of a given size. -/
def repetitionSize (least : Nat) (most : Option Nat) (isPossiblyEmpty : Bool) (size : Nat) : Nat :=
  match least, most with
  | 0, some 1 => size + statesSize 2 + branchesSize 2
  | 0, none =>
    if isPossiblyEmpty then size + statesSize 3 + branchesSize 4
    else size + statesSize 1 + branchesSize 2
  | least, none => least * size + statesSize 1 + branchesSize 2
  | least, some most =>
    if least = most then least * size
    else
      let optional := (most - least) * (size + statesSize 1 + branchesSize 2)
      (if least = 0 then statesSize 1 else least * size) + statesSize 1 + optional

/-- The size of a part as a whole and as the last of several alternatives. -/
def asAlternative (size : Nat) : Nat × Nat := (size, size + branchesSize 1)

/-- The size of a simplified pattern, and the size of its alternatives without the states that
choose among them. -/
def sizes (direction : Direction) : Pattern → Nat × Nat
  | empty => asAlternative (statesSize 1)
  | one set => asAlternative (setSize direction set)
  | anchor _ => asAlternative (statesSize 1)
  | sequence first second =>
    asAlternative ((first.sizes direction).1 + (second.sizes direction).1)
  | either left right =>
    let choice := (left.sizes direction).1 + branchesSize 1 + (right.sizes direction).2
    match (left.branches ++ right.branches).mapM word? with
    | some words => (dictionarySize direction words, choice)
    | none => (statesSize 2 + choice, choice)
  | repeated least most body =>
    asAlternative <|
      repetitionSize least most (body.shortest?.all (· == 0)) (body.sizes direction).1
  | group _ body =>
    asAlternative <|
      (body.sizes direction).1 + if direction = .forward then statesSize 2 else 0

/-- Whether every match starts at the start of a text. -/
def isAnchoredStart : Pattern → Bool
  | anchor .textStart => true
  | sequence first second =>
    first.isAnchoredStart || (first.longest? == some 0 && second.isAnchoredStart)
  | either left right => left.isAnchoredStart && right.isAnchoredStart
  | repeated least _ body => least != 0 && body.isAnchoredStart
  | group _ body => body.isAnchoredStart
  | _ => false

/-- Whether every match ends at the end of a text. -/
def isAnchoredEnd : Pattern → Bool
  | anchor .textEnd => true
  | sequence first second =>
    second.isAnchoredEnd || (second.longest? == some 0 && first.isAnchoredEnd)
  | either left right => left.isAnchoredEnd && right.isAnchoredEnd
  | repeated least _ body => least != 0 && body.isAnchoredEnd
  | group _ body => body.isAnchoredEnd
  | _ => false

/-- The size of the automaton for a pattern. Where a match may start anywhere, a loop over all bytes
precedes it; the forward automaton remembers where a match starts and ends. -/
def automatonSize (direction : Direction) (p : Pattern) : Nat :=
  let p := p.simplified
  let anchored := match direction with
    | .forward => p.isAnchoredStart
    | .backward => p.isAnchoredEnd
  let loop := if anchored then statesSize 1 else statesSize 3 + transitionsSize 1 + branchesSize 2
  let ends := if direction = .forward then statesSize 3 else statesSize 1
  loop + ends + (p.sizes direction).1

/-- Whether the automata for a pattern have an acceptable size. -/
def isAffordable (p : Pattern) : Bool :=
  p.automatonSize .forward ≤ maxSize && p.automatonSize .backward ≤ maxSize

end JvmSource.Pattern
