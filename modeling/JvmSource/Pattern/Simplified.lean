import JvmSource.Pattern.Basic

/-!
# Simplified patterns

A pattern is brought to a simpler form before an automaton is built for it. Groups that remember
nothing disappear, alternatives that match one character each become one set of characters, and
what all alternatives begin with is matched once.
-/

namespace JvmSource.Pattern

open Unicode (CharSet)

/-- Matches patterns one after the other. -/
def sequences : List Pattern → Pattern
  | [] => .empty
  | [p] => p
  | p :: ps => .sequence p (sequences ps)

/-- Matches one of several patterns, of which there is at least one. -/
def eithers : List Pattern → Pattern
  | [] => .empty
  | [p] => p
  | p :: ps => .either p (eithers ps)

/-- The patterns that a pattern matches one after the other; none of them is a sequence. -/
def parts : Pattern → List Pattern
  | empty => []
  | sequence first second => first.parts ++ second.parts
  | p => [p]

/-- The alternatives of a pattern; none of them has alternatives itself. -/
def branches : Pattern → List Pattern
  | either left right => left.branches ++ right.branches
  | p => [p]

/-- Whether the pattern matches one particular character. -/
def isLiteral : Pattern → Bool
  | one set => set.only?.isSome
  | _ => false

/-- Whether the pattern has a group. -/
def hasGroup : Pattern → Bool
  | group _ _ => true
  | sequence p q => p.hasGroup || q.hasGroup
  | either p q => p.hasGroup || q.hasGroup
  | repeated _ _ p => p.hasGroup
  | _ => false

/-- The length of the shortest text that the pattern matches. There is none if one of its character
sets has no members. -/
def shortest? : Pattern → Option Nat
  | empty => some 0
  | one set => if set.ranges.isEmpty then none else some 1
  | anchor _ => some 0
  | sequence first second => return (← first.shortest?) + (← second.shortest?)
  | either left right => return min (← left.shortest?) (← right.shortest?)
  | repeated least _ body => return least * (← body.shortest?)
  | group _ body => body.shortest?

/-- The length of the longest text that the pattern matches, if it is limited and no character set
is without members. -/
def longest? : Pattern → Option Nat
  | empty => some 0
  | one set => if set.ranges.isEmpty then none else some 1
  | anchor _ => some 0
  | sequence first second => return (← first.longest?) + (← second.longest?)
  | either left right => return max (← left.longest?) (← right.longest?)
  | repeated _ most body => return (← most) * (← body.longest?)
  | group _ body => body.longest?

/-- Repeats a pattern. What takes no room is matched at most once. -/
def repetition (least : Nat) (most : Option Nat) (body : Pattern) : Pattern :=
  let widthless := body.longest? == some 0
  let least := if widthless then min least 1 else least
  let most := if widthless then some (min (most.getD 1) 1) else most
  if most = some 0 then .empty
  else if least = 1 && most = some 1 then body
  else .repeated least most body

/-- The set of the characters that some patterns match, if each of them is a set of characters, and
either all of them or none match just one character. -/
def commonSet? (patterns : List Pattern) : Option CharSet := do
  let sets ← patterns.mapM fun
    | one set => some set
    | _ => none
  if patterns.all isLiteral || !patterns.any isLiteral then some (.unions sets) else none

/-- Matches one of several patterns, as a set of characters if possible. -/
def choice (patterns : List Pattern) : Pattern :=
  let flat := patterns.flatMap branches
  match commonSet? flat with
  | some set => .one set
  | none => eithers flat

/-- The parts of a sequence, where characters in a row count as one part. -/
def runs : List Pattern → List (List Pattern)
  | [] => []
  | p :: ps =>
    match runs ps with
    | (q :: run) :: rest =>
      if p.isLiteral && q.isLiteral then (p :: q :: run) :: rest else [p] :: (q :: run) :: rest
    | rest => [p] :: rest

/-- What two lists of parts begin with. A group is equal to no other. -/
def sharedStart : List (List Pattern) → List (List Pattern) → List (List Pattern)
  | x :: xs, y :: ys => if x = y && !x.any hasGroup then x :: sharedStart xs ys else []
  | _, _ => []

/-- Matches one of several patterns. What they begin with is matched once, if none of them is a
single part. -/
def choices : List Pattern → Pattern
  | [p] => p
  | patterns =>
    let rows := (patterns.flatMap branches).map fun p => runs p.parts
    let start := match rows with
      | [] => []
      | row :: rows => rows.foldl sharedStart row
    if rows.all (2 ≤ ·.length) && !start.isEmpty then
      let rests := rows.map fun row => sequences (row.drop start.length).flatten
      sequences (start.flatten ++ (choice rests).parts)
    else choice patterns

/-- The alternatives of a pattern in simplified form. -/
def simplifiedBranches : Pattern → List Pattern
  | sequence first second =>
    [sequences ((choices first.simplifiedBranches).parts ++
      (choices second.simplifiedBranches).parts)]
  | either left right => left.simplifiedBranches ++ right.simplifiedBranches
  | repeated least most body => [repetition least most (choices body.simplifiedBranches)]
  | group true body => [group true (choices body.simplifiedBranches)]
  | group false body => [choices body.simplifiedBranches]
  | p => [p]

/-- The simplified form of a pattern. -/
def simplified (p : Pattern) : Pattern := choices p.simplifiedBranches

end JvmSource.Pattern
