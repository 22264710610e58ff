import JvmSource.Numeral
import JvmSource.Toml.Basic

/-!
# Numbers in TOML

Integers have 64 bits. Single underscores may separate digits.
-/

namespace JvmSource.Toml

mutual

/-- Reads one or more digits. -/
def readDigits? (base : Nat) : Text → Option (Text × Text)
  | [] => none
  | c :: rest =>
    if Text.isDigitIn base c then do
      let (digits, rest) ← readMoreDigits? base rest
      return (c :: digits, rest)
    else none

/-- Reads the digits after a digit. An underscore has to be followed by a digit. -/
def readMoreDigits? (base : Nat) : Text → Option (Text × Text)
  | [] => some ([], [])
  | c :: rest =>
    if c = '_' then readDigits? base rest
    else if Text.isDigitIn base c then do
      let (digits, rest) ← readMoreDigits? base rest
      return (c :: digits, rest)
    else some ([], c :: rest)

end

/-- Reads a sign. -/
def readSign : Text → Bool × Text
  | '-' :: rest => (true, rest)
  | '+' :: rest => (false, rest)
  | text => (false, text)

/-- An integer, if it has 64 bits. -/
def integerOf? (value : Int) : Option Toml :=
  if Int64.minValue.toInt ≤ value ∧ value ≤ Int64.maxValue.toInt then some (.integer value) else none

/-- Reads the digits of an integer in a base other than ten. -/
def readBased? (base : Nat) (text : Text) : Option (Toml × Text) := do
  let (digits, rest) ← readDigits? base text
  return (← integerOf? (Text.numberOf base digits), rest)

/-- Reads a point and the digits after it, if there is a point. -/
def readFraction? : Text → Option (Text × Text)
  | '.' :: rest => readDigits? 10 rest
  | text => some ([], text)

/-- Reads the power of ten, if there is one. -/
def readExponent? : Text → Option (Option Int × Text)
  | c :: rest =>
    if c = 'e' || c = 'E' then do
      let (negative, rest) := readSign rest
      let (digits, rest) ← readDigits? 10 rest
      let magnitude : Int := Text.numberOf 10 digits
      return (some (if negative then -magnitude else magnitude), rest)
    else some (none, c :: rest)
  | [] => some (none, [])

/-- Reads a number in decimal digits. Only a lone zero starts with zero; a positive number has to
be in range. -/
def readDecimal? (text : Text) : Option (Toml × Text) := do
  let (negative, unsigned) := readSign text
  let (whole, rest) ← readDigits? 10 unsigned
  if whole.head? = some '0' ∧ whole ≠ ['0'] then none
  else do
    let (fraction, rest) ← readFraction? rest
    let (exponent, rest) ← readExponent? rest
    if fraction.isEmpty && exponent.isNone then
      let magnitude : Int := Text.numberOf 10 whole
      return (← integerOf? (if negative then -magnitude else magnitude), rest)
    else
      let numeral : Numeral := ⟨negative, whole, fraction, exponent.getD 0⟩
      if !negative && numeral.exceedsDouble then none
      else return (.float (text.take (text.length - rest.length)), rest)

/-- Reads a number. -/
def readNumber? (text : Text) : Option (Toml × Text) :=
  match text with
  | '0' :: 'x' :: rest => readBased? 16 rest
  | '0' :: 'o' :: rest => readBased? 8 rest
  | '0' :: 'b' :: rest => readBased? 2 rest
  | _ =>
    match (readSign text).2 with
    | 'i' :: 'n' :: 'f' :: rest => some (.float (text.take (text.length - rest.length)), rest)
    | 'n' :: 'a' :: 'n' :: rest => some (.float (text.take (text.length - rest.length)), rest)
    | _ => readDecimal? text

end JvmSource.Toml
