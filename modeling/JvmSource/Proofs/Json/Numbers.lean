import Mathlib.Data.List.TakeDrop
import Mathlib.Tactic.Common
import JvmSource.Proofs.Json.Grammar
import JvmSource.Proofs.Text.Digits
import JvmSource.Proofs.Text.Scanning

/-!
# Numbers are read as they are spelled

A number is read up to the first character that cannot continue it.
-/

namespace JvmSource.Json

variable {digits rest fraction spelled whole : Text} {negative : Bool} {exponent : Option Int}

/-- Whether a text does not go on with what has a property. -/
def StopsAt (p : Char → Bool) (rest : Text) : Prop := ∀ c, rest.head? = some c → p c = false

/-- Whether a character can continue a number. -/
def continuesNumber (c : Char) : Bool := c.isDigit || c == '.' || c == 'e' || c == 'E'

/-- A text is split where a property stops. -/
theorem span_append {p : Char → Bool} (h : ∀ c ∈ digits, p c = true) (hrest : StopsAt p rest) :
    (digits ++ rest).span p = (digits, rest) := by
  rw [List.span_eq_takeWhile_dropWhile, Text.takeWhile_append_eq_left h hrest,
    Text.dropWhile_append_eq_right h hrest]

/-- Digits are read up to the first character that is no digit. -/
theorem readDigits?_append (h : IsDigits digits) (hrest : StopsAt Char.isDigit rest) :
    readDigits? (digits ++ rest) = some (digits, rest) := by
  have hne : digits.isEmpty = false := List.isEmpty_eq_false_iff.mpr h.ne_nil
  rw [readDigits?, span_append h.isDigit hrest]
  simp [hne]

/-- The whole part of a number is read up to the first character that is no digit. -/
theorem readWhole?_append (h : IsWhole digits) (hrest : StopsAt Char.isDigit rest) :
    readWhole? (digits ++ rest) = some (digits, rest) := by
  have hzero : ¬ (digits.head? = some '0' ∧ digits ≠ ['0']) := fun hhead => hhead.2 (h.zero hhead.1)
  rw [readWhole?, readDigits?_append h.toIsDigits hrest]
  simp only [bind, Option.bind]
  rw [if_neg hzero]

/-- What does not continue a number does not start with a digit. -/
theorem not_digit_of_stops (hrest : StopsAt continuesNumber rest) : StopsAt Char.isDigit rest := by
  intro c hc
  have hcontinues := hrest c hc
  simp only [continuesNumber, Bool.or_eq_false_iff] at hcontinues
  exact hcontinues.1.1.1

/-- A spelled fraction is read, and an absent one as no digits. -/
theorem readFraction?_append (h : SpellsFraction fraction spelled)
    (hrest : StopsAt (fun c => c.isDigit || c == '.') rest) :
    readFraction? (spelled ++ rest) = some (fraction, rest) := by
  cases h with
  | none =>
    cases rest with
    | nil => rfl
    | cons c rest =>
      have hc : c ≠ '.' := by
        have hstops := hrest c rfl
        simp only [Bool.or_eq_false_iff, beq_eq_false_iff_ne] at hstops
        exact hstops.2
      rw [List.nil_append, readFraction?]
      intro rest' heq
      exact hc (List.cons.inj heq).1
  | digits h =>
    have hdigits : StopsAt Char.isDigit rest := fun c hc =>
      (Bool.or_eq_false_iff.mp (hrest c hc)).1
    exact readDigits?_append h hdigits

/-- Digits have no sign before them. -/
theorem readSign_of_digits (h : IsDigits digits) (rest : Text) :
    readSign (digits ++ rest) = (false, digits ++ rest) := by
  obtain ⟨c, digits', rfl⟩ := List.exists_cons_of_ne_nil h.ne_nil
  have hc := h.isDigit c List.mem_cons_self
  have hminus : c ≠ '-' := by
    rintro rfl
    exact absurd hc (by decide)
  have hplus : c ≠ '+' := by
    rintro rfl
    exact absurd hc (by decide)
  rw [List.cons_append, readSign]
  · intro rest' heq
    exact hminus (List.cons.inj heq).1
  · intro rest' heq
    exact hplus (List.cons.inj heq).1

/-- A spelled exponent is read, and an absent one as none. -/
theorem readExponent?_append (h : SpellsExponent exponent spelled)
    (hrest : StopsAt continuesNumber rest) :
    readExponent? (spelled ++ rest) = some (exponent, rest) := by
  have hdigits := not_digit_of_stops hrest
  cases h with
  | none =>
    cases rest with
    | nil => rfl
    | cons c rest =>
      -- a letter for an exponent would continue the number
      have hc : ¬ (c = 'e' || c = 'E') = true := by
        have hstops := hrest c rfl
        simp only [continuesNumber, Bool.or_eq_false_iff, beq_eq_false_iff_ne] at hstops
        simp [hstops.1.2, hstops.2]
      rw [List.nil_append, readExponent?, if_neg hc]
  | @positive letter sign digits hletter hsign h =>
    have hc : (letter = 'e' || letter = 'E') = true := by simpa using hletter
    have hsigned : readSign (sign ++ digits ++ rest) = (false, digits ++ rest) := by
      rcases hsign with rfl | rfl
      · exact readSign_of_digits h rest
      · rfl
    rw [List.cons_append, readExponent?, if_pos hc, hsigned]
    simp [readDigits?_append h hdigits]
  | @negative letter digits hletter h =>
    have hc : (letter = 'e' || letter = 'E') = true := by simpa using hletter
    have hsigned : readSign ('-' :: digits ++ rest) = (true, digits ++ rest) := rfl
    rw [List.cons_append, readExponent?, if_pos hc, hsigned]
    simp [readDigits?_append h hdigits]

/-! ## What follows the parts of a number -/

theorem stopsAt_append {p : Char → Bool} {first : Text} (hfirst : StopsAt p first)
    (hrest : first = [] → StopsAt p rest) : StopsAt p (first ++ rest) := by
  cases first with
  | nil => exact hrest rfl
  | cons c first => exact hfirst

/-- An exponent starts with neither a digit nor a point. -/
theorem SpellsExponent.stopsAt (h : SpellsExponent exponent spelled) :
    StopsAt (fun c => c.isDigit || c == '.') spelled := by
  intro c hc
  cases h with
  | none => exact absurd hc (by simp)
  | positive hletter | negative hletter =>
    obtain rfl := Option.some.inj hc
    rcases hletter with rfl | rfl <;> decide

/-- A fraction does not start with a digit. -/
theorem SpellsFraction.stopsAt (h : SpellsFraction fraction spelled) :
    StopsAt Char.isDigit spelled := by
  intro c hc
  cases h with
  | none => exact absurd hc (by simp)
  | digits =>
    obtain rfl := Option.some.inj hc
    decide

/-- A number is read as it is spelled. -/
theorem readNumber?_append {json : Json}
    (h : SpellsNumber negative whole fraction exponent spelled)
    (hvalue : ofNumber? negative whole fraction exponent = some json)
    (hrest : StopsAt continuesNumber rest) : readNumber? (spelled ++ rest) = some (json, rest) := by
  obtain ⟨hwhole, hfraction, hexponent⟩ := h
  rename_i fractionText exponentText
  have hrest' : StopsAt (fun c => c.isDigit || c == '.') rest := by
    intro c hc
    exact (Bool.or_eq_false_iff.mp (Bool.or_eq_false_iff.mp (hrest c hc)).1).1
  -- each part stops where the next one starts, or where the number ends
  have hafterFraction : StopsAt (fun c => c.isDigit || c == '.') (exponentText ++ rest) :=
    stopsAt_append hexponent.stopsAt fun _ => hrest'
  have hafterWhole : StopsAt Char.isDigit (fractionText ++ (exponentText ++ rest)) :=
    stopsAt_append hfraction.stopsAt fun _ c hc =>
      (Bool.or_eq_false_iff.mp (hafterFraction c hc)).1
  have hread := readWhole?_append hwhole hafterWhole
  unfold readNumber?
  cases negative with
  | true =>
    simp [hread, readFraction?_append hfraction hafterFraction,
      readExponent?_append hexponent hrest, hvalue]
  | false =>
    obtain ⟨c, digits, rfl⟩ := List.exists_cons_of_ne_nil hwhole.ne_nil
    have hminus : c ≠ '-' := by
      rintro rfl
      exact absurd (hwhole.isDigit _ List.mem_cons_self) (by decide)
    rw [List.cons_append] at hread
    simp [hminus, hread, readFraction?_append hfraction hafterFraction,
      readExponent?_append hexponent hrest, hvalue]

/-- A number starts with a minus sign or a digit. -/
theorem SpellsNumber.exists_cons (h : SpellsNumber negative whole fraction exponent spelled) :
    ∃ c rest, spelled = c :: rest ∧ (c = '-' ∨ c.isDigit = true) := by
  obtain ⟨hwhole, -, -⟩ := h
  obtain ⟨c, digits, rfl⟩ := List.exists_cons_of_ne_nil hwhole.ne_nil
  cases negative with
  | true => exact ⟨_, _, rfl, Or.inl rfl⟩
  | false => exact ⟨_, _, rfl, Or.inr (hwhole.isDigit c List.mem_cons_self)⟩

/-! ## Integers -/

/-- The decimal digits of a number have no leading zero. -/
theorem isWhole_toDigits (n : Nat) : IsWhole (Nat.toDigits 10 n) where
  ne_nil := Nat.toDigits_ne_nil
  isDigit c hc := Nat.isDigit_of_mem_toDigits (by omega) (by omega) hc
  zero hzero := by
    by_cases hn : n = 0
    · rw [hn]
      rfl
    · exact absurd hzero (Text.head?_toDigits hn)

/-- The decimal text of an integer spells it, with neither fraction nor exponent. -/
theorem spellsNumber_decimal (value : Int) :
    SpellsNumber (decide (value < 0)) (Nat.toDigits 10 value.natAbs) [] none
      (Text.decimal value) := by
  have hspelled : SpellsNumber (decide (value < 0)) (Nat.toDigits 10 value.natAbs) [] none _ :=
    .mk (isWhole_toDigits value.natAbs) .none .none
  unfold Text.decimal
  simpa using hspelled

/-- An integer of 64 bits is read as an integer. -/
theorem ofNumber?_toDigits {value : Int} (hleast : Int64.minValue.toInt ≤ value)
    (hgreatest : value < UInt64.size) :
    ofNumber? (decide (value < 0)) (Nat.toDigits 10 value.natAbs) [] none =
      some (.integer value) := by
  have hinteger : integerOf? (decide (value < 0)) (Nat.toDigits 10 value.natAbs) = some value := by
    rw [integerOf?, Text.numberOf_toDigits]
    have hleast' : Int64.minValue.toInt = -9223372036854775808 := by decide
    have hpow : Nat.pow 2 63 = 9223372036854775808 := by decide
    by_cases hnegative : value < 0
    · have hmagnitude : value.natAbs ≠ 0 ∧ value.natAbs ≤ Nat.pow 2 63 := by omega
      simp only [hnegative, decide_true, if_true]
      rw [if_pos hmagnitude]
      congr 1
      omega
    · have hmagnitude : value.natAbs < UInt64.size := by omega
      simp only [hnegative, decide_false]
      rw [if_neg Bool.false_ne_true, if_pos hmagnitude]
      congr 1
      omega
  rw [ofNumber?]
  simp [hinteger]

end JvmSource.Json
