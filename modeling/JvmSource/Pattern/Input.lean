import JvmSource.Pattern.Expr
import JvmSource.Text.Digits

/-!
# What is left of a written pattern

Where blanks are ignored, they may be followed by a comment from a number sign to the end of the
line. Numbers and hexadecimal escapes are read here.
-/

namespace JvmSource.Pattern

/-- The rest of a pattern, with what has been seen so far that decides how it is read. -/
structure Input where
  /-- Whether blanks and comments are ignored. -/
  verbose : Bool
  /-- The names given to groups so far. -/
  groupNames : List Text
  rest : Text

namespace Input

/-- Drops blanks and comments; `comment` tells whether the text starts inside a comment. -/
def dropIgnored : (comment : Bool) → Text → Text
  | _, [] => []
  | true, c :: rest => dropIgnored (c != '\n') rest
  | false, c :: rest =>
    if Unicode.isBlank c then dropIgnored false rest
    else if c == '#' then dropIgnored true rest
    else c :: rest

/-- Moves to the next character that is not ignored. -/
def skip (input : Input) : Input :=
  if input.verbose then { input with rest := dropIgnored false input.rest } else input

/-- Drops some characters. -/
def drop (input : Input) (count : Nat) : Input := { input with rest := input.rest.drop count }

/-- Drops one character and moves to the next one that is not ignored. -/
def next (input : Input) : Input := (input.drop 1).skip

/-- The character after the first one, ignored blanks left out. The sign that starts a comment is
left out as well, but what the comment holds is not. -/
def second? (input : Input) : Option Char :=
  let rest := input.rest.drop 1
  if input.verbose then
    match rest.dropWhile Unicode.isBlank with
    | '#' :: comment => (comment.dropWhile Unicode.isBlank).head?
    | rest => rest.head?
  else rest.head?

/-- Drops blanks. -/
def dropBlanks (input : Input) : Input :=
  { input with rest := input.rest.dropWhile Unicode.isBlank }

/-- Reads the characters that pass a test, ignored ones between them left out; at most `bound`. -/
def readWhile (test : Char → Bool) : (bound : Nat) → Input → Text × Input
  | 0, input => ([], input)
  | bound + 1, input =>
    match input.rest with
    | [] => ([], input)
    | c :: _ =>
      if test c then
        let (more, input) := readWhile test bound input.next
        (c :: more, input)
      else ([], input)

end Input

/-- Reads a decimal number of at most 32 bits with blanks around it. -/
def readDecimal? (input : Input) : Option (Nat × Input) :=
  let input := input.dropBlanks
  let (digits, input) := input.readWhile Char.isDigit input.rest.length
  if digits.isEmpty then none
  else
    let value := Text.numberOf 10 digits
    if value < UInt32.size then some (value, input.dropBlanks) else none

/-- Reads the code point of a hexadecimal escape after its letter: either `width` digits or any
number of digits between braces. -/
def readCodePoint? (width : Nat) (input : Input) : Option (Char × Input) :=
  let isHex := Text.isDigitIn 16
  match input.rest with
  | '{' :: _ => do
    let input := input.next
    let (digits, input) := input.readWhile isHex input.rest.length
    match input.rest with
    | '}' :: _ =>
      if digits.isEmpty then none
      else return (← Text.charOf? (Text.numberOf 16 digits), input.next)
    | _ => none
  | _ => do
    let (digits, input) := input.readWhile isHex width
    if digits.length = width then return (← Text.charOf? (Text.numberOf 16 digits), input) else none

end JvmSource.Pattern
