import JvmSource.Text.Digits

/-!
# Numerals

A numeral is a number as it is written: digits before and after a point, and a power of ten.
Numbers of double precision have 53 bits and stay below `2 ^ 1024`; a numeral whose magnitude would
be rounded to that bound or beyond is out of range. The magnitude is taken either exactly or, as
some readers do, as the product of two rounded numbers.
-/

namespace JvmSource

/-- A number as it is written. -/
structure Numeral where
  negative : Bool
  /-- The digits before the point. -/
  whole : Text
  /-- The digits after the point. -/
  fraction : Text
  /-- The power of ten that the number is multiplied by. -/
  exponent : Int
deriving DecidableEq, Repr

namespace Numeral

/-- The least magnitude that is rounded to `2 ^ 1024`: half a unit above the largest number of
double precision. -/
def doubleBound : Nat := Nat.pow 2 1024 - Nat.pow 2 970

/-- Whether the magnitude of a numeral is out of range. -/
def exceedsDouble (numeral : Numeral) : Bool :=
  let digits := numeral.whole ++ numeral.fraction
  let coefficient := Text.numberOf 10 digits
  match numeral.exponent - numeral.fraction.length with
  | .ofNat scale =>
    coefficient != 0 && (308 < scale || doubleBound ≤ coefficient * Nat.pow 10 scale)
  | .negSucc scale =>
    scale + 1 < digits.length && doubleBound * Nat.pow 10 (scale + 1) ≤ coefficient

/-- The number nearest to a given one among those of 53 bits; of two such numbers the even one. -/
def roundToDouble (n : Nat) : Nat :=
  let unit := Nat.pow 2 (n.log2 - 52)
  let quotient := n / unit
  let remainder := n % unit
  if 2 * remainder > unit || (2 * remainder == unit && quotient % 2 == 1) then (quotient + 1) * unit
  else quotient * unit

/-- Appends digits to a number while it fits into 64 bits. Returns the number and how many digits
are left. -/
def appendDigits : (value : Nat) → Text → Nat × Nat
  | value, [] => (value, 0)
  | value, c :: rest =>
    let next := Text.numberOf 10 [c] + 10 * value
    if next < UInt64.size then appendDigits next rest else (value, rest.length + 1)

/-- Whether a numeral is out of range when its magnitude is the product of its leading digits, as
many as 64 bits hold, and a power of ten, both rounded. -/
def productExceedsDouble (numeral : Numeral) : Bool :=
  let (whole, omittedWhole) := appendDigits 0 numeral.whole
  let (coefficient, omittedFraction) := appendDigits whole numeral.fraction
  let read := numeral.fraction.length - omittedFraction
  match numeral.exponent + omittedWhole - read with
  | .ofNat scale =>
    coefficient != 0 &&
      (308 < scale || doubleBound ≤ roundToDouble coefficient * roundToDouble (Nat.pow 10 scale))
  | .negSucc _ => false

end Numeral

end JvmSource
