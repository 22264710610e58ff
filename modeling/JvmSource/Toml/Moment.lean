import JvmSource.Text.Digits
import JvmSource.Toml.Basic

/-!
# Dates and times in TOML

A moment is a date, a time of day, or both with a `T` or a space between them; the latter may have
an offset from universal time. The functions here return what follows.
-/

namespace JvmSource.Toml

/-- Reads a number of a given number of digits. -/
def readFixed? (width : Nat) (text : Text) : Option (Nat × Text) :=
  let digits := text.take width
  if digits.length = width ∧ digits.all Char.isDigit then
    some (Text.numberOf 10 digits, text.drop width)
  else none

/-- Reads a given character. -/
def readChar? (c : Char) : Text → Option Text
  | [] => none
  | first :: rest => if first = c then some rest else none

/-- Reads a given character and a number of two digits. -/
def readPart? (c : Char) (text : Text) : Option (Nat × Text) := do
  readFixed? 2 (← readChar? c text)

/-- The number of days of a month. -/
def daysOf (year month : Nat) : Nat :=
  if month = 2 then
    if year % 4 = 0 ∧ (year % 100 ≠ 0 ∨ year % 400 = 0) then 29 else 28
  else if month = 4 ∨ month = 6 ∨ month = 9 ∨ month = 11 then 30
  else 31

/-- Reads a date. -/
def readDate? (text : Text) : Option Text := do
  let (year, rest) ← readFixed? 4 text
  let (month, rest) ← readPart? '-' rest
  let (day, rest) ← readPart? '-' rest
  if 1 ≤ month ∧ month ≤ 12 ∧ 1 ≤ day ∧ day ≤ daysOf year month then some rest else none

/-- Drops a point and the digits after it. -/
def dropSecondFraction (text : Text) : Text :=
  match text with
  | '.' :: rest =>
    let after := rest.dropWhile Char.isDigit
    if after.length < rest.length then after else text
  | _ => text

/-- Reads a time of day. A minute may have a leap second. -/
def readTime? (text : Text) : Option Text := do
  let (hour, rest) ← readFixed? 2 text
  let (minute, rest) ← readPart? ':' rest
  let (second, rest) ← readPart? ':' rest
  if hour ≤ 23 ∧ minute ≤ 59 ∧ second ≤ 60 then some (dropSecondFraction rest) else none

/-- Drops an offset from universal time. -/
def dropOffset (text : Text) : Text :=
  let read? := do
    let (hour, rest) ← readPart? '+' text <|> readPart? '-' text
    let (minute, rest) ← readPart? ':' rest
    if hour ≤ 23 ∧ minute ≤ 59 then some rest else none
  match text with
  | 'Z' :: rest => rest
  | 'z' :: rest => rest
  | _ => read?.getD text

/-- Drops the time after a date. -/
def dropTime (text : Text) : Text :=
  match text with
  | c :: rest =>
    if c = 'T' || c = 't' || c = ' ' then ((readTime? rest).map dropOffset).getD text else text
  | [] => []

/-- Reads a moment. -/
def readMoment? (text : Text) : Option (Toml × Text) := do
  let rest ← (readDate? text).map dropTime <|> readTime? text
  return (.moment (text.take (text.length - rest.length)), rest)

end JvmSource.Toml
