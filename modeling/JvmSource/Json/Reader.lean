import JvmSource.Json.Basic

/-!
# Reading JSON

Values are nested at most `Json.maxDepth` deep. White space may stand around every part of a value;
nothing may follow the last one.
-/

namespace JvmSource.Json

/-- The number of arrays and objects that may lie inside one another. -/
def maxDepth : Nat := 127

/-- White space between the parts of a value. -/
def isSpace (c : Char) : Bool := c == ' ' || c == '\t' || c == '\n' || c == '\r'

/-- Drops white space. -/
def skipSpace (text : Text) : Text := text.dropWhile isSpace

/-! ## Numbers -/

/-- Reads one or more digits. -/
def readDigits? (text : Text) : Option (Text × Text) :=
  let (digits, rest) := text.span Char.isDigit
  if digits.isEmpty then none else some (digits, rest)

/-- Reads the digits before the point; only a lone zero starts with zero. -/
def readWhole? (text : Text) : Option (Text × Text) := do
  let (digits, rest) ← readDigits? text
  if digits.head? = some '0' ∧ digits ≠ ['0'] then none else some (digits, rest)

/-- Reads a point and the digits after it, if there is a point. -/
def readFraction? : Text → Option (Text × Text)
  | '.' :: rest => readDigits? rest
  | text => some ([], text)

/-- Reads a sign, which is a plus unless something else is written. -/
def readSign : Text → Bool × Text
  | '-' :: rest => (true, rest)
  | '+' :: rest => (false, rest)
  | text => (false, text)

/-- Reads the power of ten, if there is one. -/
def readExponent? : Text → Option (Option Int × Text)
  | c :: rest =>
    if c = 'e' || c = 'E' then do
      let (negative, text) := readSign rest
      let (digits, text) ← readDigits? text
      let magnitude : Int := Text.numberOf 10 digits
      return (some (if negative then -magnitude else magnitude), text)
    else some (none, c :: rest)
  | [] => some (none, [])

/-- The integer that a sign and digits stand for, if it has 64 bits. A negative zero is none. -/
def integerOf? (negative : Bool) (digits : Text) : Option Int :=
  let magnitude := Text.numberOf 10 digits
  if negative then
    if magnitude ≠ 0 ∧ magnitude ≤ Nat.pow 2 63 then some (-magnitude) else none
  else
    if magnitude < UInt64.size then some magnitude else none

/-- The value of a number; a number that is out of range has none. -/
def ofNumber? (negative : Bool) (whole fraction : Text) (exponent : Option Int) : Option Json :=
  let numeral : Numeral := ⟨negative, whole, fraction, exponent.getD 0⟩
  match if fraction.isEmpty && exponent.isNone then integerOf? negative whole else none with
  | some value => some (.integer value)
  | none => if numeral.productExceedsDouble then none else some (.real numeral)

/-- Reads a number. -/
def readNumber? (text : Text) : Option (Json × Text) := do
  let (negative, text) := match text with
    | '-' :: rest => (true, rest)
    | _ => (false, text)
  let (whole, text) ← readWhole? text
  let (fraction, text) ← readFraction? text
  let (exponent, text) ← readExponent? text
  return (← ofNumber? negative whole fraction exponent, text)

/-! ## Strings -/

/-- The characters that a backslash and a letter stand for. -/
def escapes : List (Char × Char) :=
  [('"', '"'), ('\\', '\\'), ('/', '/'), ('b', '\x08'), ('f', '\x0c'), ('n', '\n'), ('r', '\r'),
    ('t', '\t')]

/-- The number that four hexadecimal digits stand for. -/
def unitOf? (digits : Text) : Option Nat :=
  if digits.all (Text.isDigitIn 16) then some (Text.numberOf 16 digits) else none

/-- Whether a code unit is the first half of a pair. -/
def isHighSurrogate (unit : Nat) : Bool := 0xD800 ≤ unit && unit < 0xDC00

/-- Whether a code unit is the second half of a pair. -/
def isLowSurrogate (unit : Nat) : Bool := 0xDC00 ≤ unit && unit < 0xE000

/-- The character that a pair of code units stands for. -/
def ofSurrogates? (high low : Nat) : Option Char :=
  if isHighSurrogate high && isLowSurrogate low then
    Text.charOf? (0x10000 + (high - 0xD800) * 0x400 + (low - 0xDC00))
  else none

/-- Reads the characters of a string up to the quote that ends it. -/
def readString? : Text → Option (Text × Text)
  | [] => none
  | '"' :: rest => some ([], rest)
  | '\\' :: 'u' :: a :: b :: c :: d :: '\\' :: 'u' :: e :: f :: g :: h :: rest =>
    match unitOf? [a, b, c, d] with
    | none => none
    | some unit =>
      if isHighSurrogate unit then do
        let char ← ofSurrogates? unit (← unitOf? [e, f, g, h])
        let (text, rest) ← readString? rest
        return (char :: text, rest)
      else do
        let char ← Text.charOf? unit
        let (text, rest) ← readString? ('\\' :: 'u' :: e :: f :: g :: h :: rest)
        return (char :: text, rest)
  | '\\' :: 'u' :: a :: b :: c :: d :: rest => do
    let char ← Text.charOf? (← unitOf? [a, b, c, d])
    let (text, rest) ← readString? rest
    return (char :: text, rest)
  | '\\' :: c :: rest => do
    let char ← escapes.lookup c
    let (text, rest) ← readString? rest
    return (char :: text, rest)
  | c :: rest =>
    if c.toNat < 0x20 then none
    else do
      let (text, rest) ← readString? rest
      return (c :: text, rest)

/-! ## Values -/

/-- Reads one or more items with commas between them, up to the closing character; at most `bound`
items. -/
def readItems? {α : Type} (readItem? : Text → Option (α × Text)) (closing : Char) :
    (bound : Nat) → Text → Option (List α × Text)
  | 0, _ => none
  | bound + 1, text => do
    let (item, rest) ← readItem? text
    match skipSpace rest with
    | c :: rest =>
      if c = ',' then do
        let (items, rest) ← readItems? readItem? closing bound rest
        return (item :: items, rest)
      else if c = closing then return ([item], rest)
      else none
    | [] => none

/-- Reads items with commas between them, up to the closing character. -/
def readGroup? {α : Type} (readItem? : Text → Option (α × Text)) (closing : Char) (text : Text) :
    Option (List α × Text) :=
  if (skipSpace text).head? = some closing then some ([], (skipSpace text).drop 1)
  else readItems? readItem? closing text.length text

/-- Reads a key, a colon and a value. -/
def readMember? (readValue? : Text → Option (Json × Text)) (text : Text) :
    Option ((Text × Json) × Text) :=
  match skipSpace text with
  | '"' :: rest => do
    let (key, rest) ← readString? rest
    match skipSpace rest with
    | ':' :: rest => do
      let (value, rest) ← readValue? rest
      return ((key, value), rest)
    | _ => none
  | _ => none

/-- Reads a value that holds no other value. -/
def readScalar? : Text → Option (Json × Text)
  | 'n' :: 'u' :: 'l' :: 'l' :: rest => some (.null, rest)
  | 't' :: 'r' :: 'u' :: 'e' :: rest => some (.bool true, rest)
  | 'f' :: 'a' :: 'l' :: 's' :: 'e' :: rest => some (.bool false, rest)
  | '"' :: rest => do
    let (text, rest) ← readString? rest
    return (.string text, rest)
  | text => readNumber? text

/-- Reads a value with at most `depth` arrays and objects inside one another. -/
def readValue? : (depth : Nat) → Text → Option (Json × Text)
  | 0, text => readScalar? (skipSpace text)
  | depth + 1, text =>
    match skipSpace text with
    | '[' :: rest => do
      let (items, rest) ← readGroup? (readValue? depth) ']' rest
      return (.array items, rest)
    | '{' :: rest => do
      let (members, rest) ← readGroup? (readMember? (readValue? depth)) '}' rest
      return (.object members, rest)
    | text => readScalar? text

/-- Reads a text that holds one value. -/
def parse? (text : Text) : Option Json := do
  let (value, rest) ← readValue? maxDepth text
  if (skipSpace rest).isEmpty then some value else none

end JvmSource.Json
