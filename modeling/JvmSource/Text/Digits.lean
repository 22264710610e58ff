import JvmSource.Text.Basic

/-!
# Numbers in text

Numbers are written in decimal and hexadecimal digits, and read in any base up to sixteen.
-/

namespace JvmSource.Text

/-- The decimal digits of an integer, with a minus sign if it is negative. -/
def decimal (value : Int) : Text :=
  (if value < 0 then ['-'] else []) ++ Nat.toDigits 10 value.natAbs

/-- A number in lowercase hexadecimal digits. -/
def hexadecimal (value : Nat) : Text := Nat.toDigits 16 value

/-- The value of a digit in bases up to sixteen. -/
def digitValue? (c : Char) : Option Nat :=
  if c.isDigit then some (c.toNat - '0'.toNat)
  else if 'a' ≤ c && c ≤ 'f' then some (c.toNat - 'a'.toNat + 10)
  else if 'A' ≤ c && c ≤ 'F' then some (c.toNat - 'A'.toNat + 10)
  else none

/-- Whether a character is a digit in a base up to sixteen. -/
def isDigitIn (base : Nat) (c : Char) : Bool := (digitValue? c).any (· < base)

/-- The number that digits stand for; characters that are no digits count as zero. -/
def numberOf (base : Nat) (digits : Text) : Nat :=
  digits.foldl (fun value c => value * base + (digitValue? c).getD 0) 0

/-- The character with a code point, if it is one. -/
def charOf? (codePoint : Nat) : Option Char :=
  if codePoint.isValidChar then some (Char.ofNat codePoint) else none

end JvmSource.Text
