import JvmSource.Text.Digits

/-!
# Strings in TOML

A string stands between single or double quotes, of which three enclose text of several lines. Only
double quotes admit escapes. The functions here read what follows the opening quotes.
-/

namespace JvmSource.Toml

/-- Whether a character may stand in a string or a comment: no control character but the tab. -/
def isPlain (c : Char) : Bool := c == '\t' || (0x20 ≤ c.toNat && c.toNat != 0x7F)

/-- Spaces and tabs. -/
def isBlank (c : Char) : Bool := c == ' ' || c == '\t'

/-- What follows the line end that a text starts with, if it does. -/
def lineEnd? : Text → Option Text
  | '\n' :: rest => some rest
  | '\r' :: '\n' :: rest => some rest
  | _ => none

/-- Drops blanks and line ends; at most `bound` line ends. -/
def dropBlankLines : (bound : Nat) → Text → Text
  | 0, text => text
  | bound + 1, text =>
    let text := text.dropWhile isBlank
    match lineEnd? text with
    | some rest => dropBlankLines bound rest
    | none => text

/-- Puts a character in front of what has been read after it. -/
def consRead (c : Char) : Text × Text → Text × Text
  | (text, rest) => (c :: text, rest)

/-! ## Escapes -/

/-- The characters that a backslash and a letter stand for. -/
def escapes : List (Char × Char) :=
  [('"', '"'), ('\\', '\\'), ('b', '\x08'), ('f', '\x0c'), ('n', '\n'), ('r', '\r'), ('t', '\t')]

/-- Reads a code point of a given number of digits. -/
def readCodePoint? (width : Nat) (text : Text) : Option (Char × Text) := do
  let digits := text.take width
  if digits.length = width ∧ digits.all (Text.isDigitIn 16) then
    return (← Text.charOf? (Text.numberOf 16 digits), text.drop width)
  else none

/-- Reads an escape after its backslash. -/
def readEscape? : Text → Option (Char × Text)
  | 'u' :: rest => readCodePoint? 4 rest
  | 'U' :: rest => readCodePoint? 8 rest
  | c :: rest => return (← escapes.lookup c, rest)
  | [] => none

/-! ## Strings -/

/-- Reads a string up to its closing double quote. -/
def readBasic? : (bound : Nat) → Text → Option (Text × Text)
  | bound + 1, c :: rest =>
    if c = '"' then some ([], rest)
    else if c = '\\' then do
      let (c, rest) ← readEscape? rest
      return consRead c (← readBasic? bound rest)
    else if isPlain c then return consRead c (← readBasic? bound rest)
    else none
  | _, _ => none

/-- Reads a string up to its closing single quote. -/
def readLiteral? : Text → Option (Text × Text)
  | [] => none
  | c :: rest =>
    if c = '\'' then some ([], rest)
    else if isPlain c then return consRead c (← readLiteral? rest)
    else none

/-- Drops the line end after the opening quotes of a string of several lines. -/
def dropLineEnd (text : Text) : Text := (lineEnd? text).getD text

/-- Reads the closing quotes of a string of several lines, if they stand here: three quotes, before
which one or two more may belong to the string. -/
def readClosing? (quote : Char) (text : Text) : Option (Text × Text) :=
  let quotes := text.takeWhile (· == quote)
  if 3 ≤ quotes.length then
    let inside := min (quotes.length - 3) 2
    some (quotes.take inside, text.drop (inside + 3))
  else none

/-- Reads the lines of a string up to its closing double quotes. A backslash at the end of a line
takes the blanks and the line ends after it away. -/
def readBasicLines? : (bound : Nat) → Text → Option (Text × Text)
  | 0, _ => none
  | bound + 1, text =>
    match readClosing? '"' text with
    | some read => some read
    | none =>
      match lineEnd? text, text with
      | some rest, _ => return consRead '\n' (← readBasicLines? bound rest)
      | none, '\\' :: rest =>
        match lineEnd? (rest.dropWhile isBlank) with
        | some rest => readBasicLines? bound (dropBlankLines rest.length rest)
        | none => do
          let (c, rest) ← readEscape? rest
          return consRead c (← readBasicLines? bound rest)
      | none, c :: rest =>
        if isPlain c then return consRead c (← readBasicLines? bound rest) else none
      | none, [] => none

/-- Reads the lines of a string up to its closing single quotes. -/
def readLiteralLines? : (bound : Nat) → Text → Option (Text × Text)
  | 0, _ => none
  | bound + 1, text =>
    match readClosing? '\'' text with
    | some read => some read
    | none =>
      match lineEnd? text, text with
      | some rest, _ => return consRead '\n' (← readLiteralLines? bound rest)
      | none, c :: rest =>
        if isPlain c then return consRead c (← readLiteralLines? bound rest) else none
      | none, [] => none

/-- Reads a string of one line. -/
def readLine? : Text → Option (Text × Text)
  | '"' :: rest => readBasic? (rest.length + 1) rest
  | '\'' :: rest => readLiteral? rest
  | _ => none

/-- Reads a string. -/
def readString? : Text → Option (Text × Text)
  | '"' :: '"' :: '"' :: rest => readBasicLines? (rest.length + 1) (dropLineEnd rest)
  | '\'' :: '\'' :: '\'' :: rest => readLiteralLines? (rest.length + 1) (dropLineEnd rest)
  | text => readLine? text

end JvmSource.Toml
