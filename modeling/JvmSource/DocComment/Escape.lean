import JvmSource.Template

/-!
# Escaping text in documentation comments

Text inside a documentation comment must neither end it nor open another one. Where a slash and a
star meet, in either order, a space is put between them. Both may be written as the escapes `\u002f`
and `\u002a`, with any number of `u`s, which compilers decode before they look for comments.
-/

namespace JvmSource.DocComment

/-- The characters that comment delimiters are made of. -/
inductive Delimiter where
  | slash
  | star
deriving DecidableEq, Repr

/-- Whether two neighbouring delimiter characters open or close a comment. -/
def Delimiter.meets : Delimiter → Delimiter → Bool
  | slash, star => true
  | star, slash => true
  | _, _ => false

/-- Four characters read as the hexadecimal number of a delimiter character. -/
def escaped? : Text → Option Delimiter
  | '0' :: '0' :: '2' :: c :: _ =>
    if c = 'a' || c = 'A' then some .star
    else if c = 'f' || c = 'F' then some .slash
    else none
  | _ => none

/-- The number of characters at the start of a text that are the letter `u`. -/
def countU : Text → Nat
  | 'u' :: rest => countU rest + 1
  | _ => 0

/-- The delimiter character that a text starts with, if any, and the number of characters that it is
written with. -/
def delimiter? : Text → Option (Delimiter × Nat)
  | '/' :: _ => some (.slash, 1)
  | '*' :: _ => some (.star, 1)
  | '\\' :: rest =>
    let marks := countU rest
    if marks = 0 then none
    else (escaped? (rest.drop marks)).map (·, 1 + marks + 4)
  | _ => none

/-- Escapes the rest of a text: `previous` is the delimiter character before it, and the first
`inside` characters belong to that one. -/
def escapeFrom : (previous : Option Delimiter) → (inside : Nat) → Text → Text
  | _, _, [] => []
  | previous, inside + 1, c :: rest => c :: escapeFrom previous inside rest
  | previous, 0, c :: rest =>
    match delimiter? (c :: rest) with
    | none => c :: escapeFrom none 0 rest
    | some (delimiter, length) =>
      let separated := if previous.any (·.meets delimiter) then [' ', c] else [c]
      separated ++ escapeFrom (some delimiter) (length - 1) rest

/-- Escapes a text. -/
def escape (text : Text) : Text := escapeFrom none 0 text

mutual

/-- Escapes the texts in an argument. -/
def escapeArg : Arg → Arg
  | .text value => .text (escape value)
  | .int value => .int value
  | .bool value => .bool value
  | .list items => .list (escapeArgs items)

/-- Escapes the texts in several arguments. -/
def escapeArgs : List Arg → List Arg
  | [] => []
  | item :: items => escapeArg item :: escapeArgs items

end

end JvmSource.DocComment
