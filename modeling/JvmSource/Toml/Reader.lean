import JvmSource.Toml.Moment
import JvmSource.Toml.Number
import JvmSource.Toml.Quoted

/-!
# Reading TOML

A document is a sequence of lines: headers, and keys with their values. The lines are read first and
then carried out one after the other on the table that the document describes.
-/

namespace JvmSource.Toml

/-- A bound on the number of arrays and braces that lie inside one another, and on the number of
parts of a dotted key; neither reaches it. -/
def depthLimit : Nat := 80

/-! ## Gaps -/

/-- Drops spaces and tabs. -/
def skipBlanks (text : Text) : Text := text.dropWhile isBlank

/-- Drops a comment. -/
def skipComment : Text → Text
  | '#' :: rest => rest.dropWhile isPlain
  | text => text

/-- What follows the end of a line, before which there may be blanks and a comment. -/
def restAfterLine? (text : Text) : Option Text :=
  match skipComment (skipBlanks text) with
  | [] => some []
  | text => lineEnd? text

/-- Drops blanks, comments and line ends; at most `bound` line ends. -/
def skipGaps : (bound : Nat) → Text → Text
  | 0, text => text
  | bound + 1, text =>
    let text := skipBlanks text
    match lineEnd? (skipComment text) with
    | some rest => skipGaps bound rest
    | none => text

/-! ## Keys -/

/-- Characters of a key without quotes. -/
def isKeyCharacter (c : Char) : Bool := c.isAlphanum || c == '_' || c == '-'

/-- Reads one part of a key. -/
def readKeyPart? (text : Text) : Option (Text × Text) :=
  match text with
  | '"' :: _ => readLine? text
  | '\'' :: _ => readLine? text
  | _ =>
    let (key, rest) := text.span isKeyCharacter
    if key.isEmpty then none else some (key, rest)

/-- Reads the parts of a key, at most `bound`, with dots between them. -/
def readKeyParts? : (bound : Nat) → Text → Option (List Text × Text)
  | 0, _ => none
  | bound + 1, text => do
    let (part, rest) ← readKeyPart? (skipBlanks text)
    match skipBlanks rest with
    | '.' :: rest => do
      let (parts, rest) ← readKeyParts? bound rest
      return (part :: parts, rest)
    | rest => return ([part], rest)

/-- A dotted key: the path to a table, and the last part. -/
structure Key where
  path : List Text
  last : Text

/-- Reads a dotted key. -/
def readKey? (text : Text) : Option (Key × Text) := do
  let (parts, rest) ← readKeyParts? (depthLimit - 1) text
  return (⟨parts.dropLast, ← parts.getLast?⟩, rest)

/-! ## Values -/

/-- Reads the items of an array up to its closing bracket; at most `bound` items. A comma may
follow the last one. -/
def readItems? (readItem? : Text → Option (Toml × Text)) :
    (bound : Nat) → Text → Option (List Toml × Text)
  | 0, _ => none
  | bound + 1, text =>
    match skipGaps text.length text with
    | ']' :: rest => some ([], rest)
    | text => do
      let (item, rest) ← readItem? text
      match skipGaps rest.length rest with
      | ',' :: rest => do
        let (items, rest) ← readItems? readItem? bound rest
        return (item :: items, rest)
      | ']' :: rest => return ([item], rest)
      | _ => none

/-- Reads a key, an equals sign and a value. -/
def readAssignment? (readValue? : Text → Option (Toml × Text)) (text : Text) :
    Option ((Key × Toml) × Text) := do
  let (key, rest) ← readKey? text
  match rest with
  | '=' :: rest => do
    let (value, rest) ← readValue? (skipBlanks rest)
    return ((key, value), rest)
  | _ => none

/-- Adds assignments to a table up to its closing brace; at most `bound` of them. -/
def readAssignments? (readValue? : Text → Option (Toml × Text)) :
    (bound : Nat) → Table → Text → Option (Table × Text)
  | 0, _, _ => none
  | bound + 1, inner, text => do
    let ((key, value), rest) ← readAssignment? readValue? text
    let inner ← inner.assign? key.path key.last value
    match skipBlanks rest with
    | ',' :: rest => readAssignments? readValue? bound inner rest
    | '}' :: rest => return (inner, rest)
    | _ => none

/-- Reads a table in braces after its opening brace. -/
def readBraces? (readValue? : Text → Option (Toml × Text)) (text : Text) :
    Option (Table × Text) :=
  match skipBlanks text with
  | '}' :: rest => some (.empty .braces, rest)
  | text => readAssignments? readValue? text.length (.empty .braces) text

/-- Reads a value that holds no other value. -/
def readScalar? (text : Text) : Option (Toml × Text) :=
  match text with
  | 't' :: 'r' :: 'u' :: 'e' :: rest => some (.bool true, rest)
  | 'f' :: 'a' :: 'l' :: 's' :: 'e' :: rest => some (.bool false, rest)
  | _ => ((readString? text).map fun (text, rest) => (.string text, rest)) <|>
    readMoment? text <|> readNumber? text

/-- Reads a value with at most `depth` arrays and braces inside one another. -/
def readValue? : (depth : Nat) → Text → Option (Toml × Text)
  | 0, text => readScalar? text
  | depth + 1, text =>
    match text with
    | '[' :: rest => do
      let (items, rest) ← readItems? (readValue? depth) (rest.length + 1) rest
      return (.array items, rest)
    | '{' :: rest => do
      let (inner, rest) ← readBraces? (readValue? depth) rest
      return (.table inner, rest)
    | _ => readScalar? text

/-! ## Lines -/

/-- A line that says something. -/
inductive Line where
  /-- A header in single brackets. -/
  | header (key : Key)
  /-- A header in double brackets. -/
  | item (key : Key)
  | assignment (key : Key) (value : Toml)

/-- Reads a line up to where only a comment may follow. -/
def readContent? (text : Text) : Option (Line × Text) :=
  match text with
  | '[' :: '[' :: rest => do
    let (key, rest) ← readKey? rest
    match rest with
    | ']' :: ']' :: rest => return (.item key, rest)
    | _ => none
  | '[' :: rest => do
    let (key, rest) ← readKey? rest
    match rest with
    | ']' :: rest => return (.header key, rest)
    | _ => none
  | _ => do
    let ((key, value), rest) ← readAssignment? (readValue? (depthLimit - 1)) text
    return (.assignment key value, rest)

/-- Reads lines, at most `bound` of them. -/
def readLines? : (bound : Nat) → Text → Option (List Line)
  | 0, text => if text.isEmpty then some [] else none
  | bound + 1, text =>
    if text.isEmpty then some []
    else
      match restAfterLine? text with
      | some rest => readLines? bound rest
      | none => do
        let (line, rest) ← readContent? (skipBlanks text)
        let lines ← readLines? bound (← restAfterLine? rest)
        return line :: lines

/-! ## Documents -/

/-- A document in the making: its table, and the path of the last header. -/
structure Draft where
  table : Table
  place : List Text

/-- Carries out a line. -/
def Draft.add? (draft : Draft) : Line → Option Draft
  | .header key => return ⟨← draft.table.openTable? key.path key.last, key.path ++ [key.last]⟩
  | .item key => return ⟨← draft.table.appendTable? key.path key.last, key.path ++ [key.last]⟩
  | .assignment key value => do
    let table ← draft.table.alterAtHeader? draft.place fun inner =>
      inner.assign? key.path key.last value
    return { draft with table }

/-- Reads a document, in front of which there may be a byte order mark. -/
def parse? (text : Text) : Option Table := do
  let text := match text with
    | '\ufeff' :: rest => rest
    | _ => text
  let lines ← readLines? text.length text
  let draft ← lines.foldlM Draft.add? ⟨.empty .header, []⟩
  return draft.table

end JvmSource.Toml
