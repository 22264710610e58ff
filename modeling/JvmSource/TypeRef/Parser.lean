import JvmSource.TypeRef.Basic
import JvmSource.Identifier

/-!
# Reading type references

A reference is cut into its path and its suffix. A suffix that is one bracket group of references is
then read argument by argument; every other suffix is kept as text.

Nested groups are read row by row: all references of one nesting depth are cut before any deeper
one, and the rows are put together from the deepest up. Depth is therefore a bound on the number of
rows, and nothing is read deeper than `TypeRef.maxDepth`.
-/

namespace JvmSource

namespace TypeRef

/-- The number of nesting levels that are read argument by argument. -/
def maxDepth : Nat := 1024

/-- Whether `c` opens a bracket group. -/
def opens (c : Char) : Bool := c == '<' || c == '['

/-- Whether `c` closes a bracket group. -/
def closes (c : Char) : Bool := c == '>' || c == ']'

/-- Whether `first` stands directly before `second` somewhere in the text. -/
def hasPair (first second : Char) : Text → Bool
  | a :: b :: rest => (a == first && b == second) || hasPair first second (b :: rest)
  | _ => false

/-- Whether a text can follow the path of a reference: it is empty, one group of either kind of
brackets, or a group of one kind followed by a group of the other, all on one line. What a group
holds is not looked at, so its brackets need not match. -/
def isSuffix (text : Text) : Bool :=
  !text.contains '\n' &&
    match text with
    | [] => true
    | '<' :: rest =>
      rest.getLast? == some '>' || rest.getLast? == some ']' && hasPair '>' '[' rest
    | '[' :: rest =>
      rest.getLast? == some ']' || rest.getLast? == some '>' && hasPair ']' '<' rest
    | _ => false

/-- A reference whose suffix has not been read yet. -/
structure Cut where
  names : List Text
  suffix : Text

/-- Cuts a text before its first bracket into a dotted path and a suffix. -/
def cut? (text : Text) : Option Cut := do
  let names ← pathNames? (text.takeWhile (!opens ·))
  let suffix := text.dropWhile (!opens ·)
  if isSuffix suffix then some ⟨names, suffix⟩ else none

/-- Puts a character in front of the first piece. -/
def consFirst (c : Char) : List Text → List Text
  | [] => [[c]]
  | piece :: pieces => (c :: piece) :: pieces

/-- The pieces between the commas outside all brackets, where both kinds of brackets count alike.
Fails when a bracket is closed before it is opened or is left open. -/
def topLevelPieces? : (depth : Nat) → Text → Option (List Text)
  | 0, [] => some [[]]
  | _ + 1, [] => none
  | depth, c :: rest =>
    if opens c then (topLevelPieces? (depth + 1) rest).map (consFirst c)
    else if closes c then
      match depth with
      | 0 => none
      | depth + 1 => (topLevelPieces? depth rest).map (consFirst c)
    else if c == ',' && depth == 0 then (topLevelPieces? depth rest).map ([] :: ·)
    else (topLevelPieces? depth rest).map (consFirst c)

/-- What stands between the first and the last character, if these are a pair of brackets. -/
def group? : Text → Option (Bracket × Text)
  | '<' :: rest => if rest.getLast? = some '>' then some (.angle, rest.dropLast) else none
  | '[' :: rest => if rest.getLast? = some ']' then some (.square, rest.dropLast) else none
  | _ => none

/-- Cuts one argument, with white space around it and a question mark after it removed. -/
def cutArg? (piece : Text) : Option (Cut × Bool) :=
  let trimmed := Text.trim piece
  match ['?'].isSuffixOf? trimmed with
  | some type => (cut? type).map (·, true)
  | none => (cut? trimmed).map (·, false)

/-- The cut arguments of a suffix that is one balanced bracket group of references. -/
def cutArgs? (suffix : Text) : Option (Bracket × List (Cut × Bool)) := do
  let (bracket, inner) ← group? suffix
  let pieces ← topLevelPieces? 0 inner
  let args ← pieces.mapM cutArg?
  return (bracket, args)

/-- Gives each reference of a row its arguments, which stand in the row below in the same order. -/
def assemble : List (Cut × Option (Bracket × List (Cut × Bool))) → List TypeRef → List TypeRef
  | [], _ => []
  | (cut, none) :: row, below => mk cut.names (.ofText cut.suffix) :: assemble row below
  | (cut, some (bracket, args)) :: row, below =>
    let types := below.take args.length
    mk cut.names (.plain bracket (types.zipWith (fun type arg => .mk type arg.2) args)) ::
      assemble row (below.drop args.length)

/-- Reads a row of references and the given number of rows below it. -/
def readRow : (rows : Nat) → List Cut → List TypeRef
  | _, [] => []
  | 0, row => row.map fun cut => mk cut.names (.ofText cut.suffix)
  | rows + 1, row =>
    let opened := row.map fun cut => (cut, cutArgs? cut.suffix)
    let below := opened.flatMap fun
      | (_, some (_, args)) => args.map Prod.fst
      | (_, none) => []
    assemble opened (readRow rows below)

/-- Reads a type reference. -/
def parse? (text : Text) : Option TypeRef := do
  let cut ← cut? text
  (readRow maxDepth [cut]).head?

end TypeRef

end JvmSource
