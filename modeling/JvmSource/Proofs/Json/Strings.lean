import Mathlib.Tactic.Common
import JvmSource.Proofs.Json.Grammar
import JvmSource.Proofs.Text.Units

/-!
# Strings are read as they are spelled

Each character is read from any of its spellings, whatever comes next. What comes next is looked at
only where a code unit is written that may be the first of two.
-/

namespace JvmSource.Json

variable {c : Char} {digits spelled rest text : Text} {unit : Nat}

/-- A character, read before the rest of a string. -/
def prepend (c : Char) (read : Text × Text) : Text × Text := (c :: read.1, read.2)

/-! ## Code units -/

/-- The four digits of a unit are read as the unit. -/
theorem SpellsUnit.unitOf?_eq (h : SpellsUnit unit digits) : unitOf? digits = some unit := by
  rw [unitOf?, if_pos (List.all_eq_true.mpr h.hexadecimal), h.value]

theorem SpellsUnit.exists_eq (h : SpellsUnit unit digits) :
    ∃ a b c d, digits = [a, b, c, d] := by
  match digits, h.length with
  | [a, b, c, d], _ => exact ⟨a, b, c, d, rfl⟩

theorem charOf?_toNat (c : Char) : Text.charOf? c.toNat = some c := by
  have hvalid : c.toNat.isValidChar := c.valid
  rw [Text.charOf?, if_pos hvalid, Char.ofNat_toNat]

/-- No character is a surrogate. -/
theorem isHighSurrogate_toNat (c : Char) : isHighSurrogate c.toNat = false := by
  have hvalid : c.toNat.isValidChar := c.valid
  unfold Nat.isValidChar at hvalid
  simp only [isHighSurrogate, Bool.and_eq_false_iff, decide_eq_false_iff_not]
  omega

/-- The surrogates of a character stand for it. -/
theorem ofSurrogates?_of_pair {high low : Nat} (h : Text.IsSurrogatePair high low c.toNat) :
    isHighSurrogate high = true ∧ ofSurrogates? high low = some c := by
  obtain ⟨hhigh, hlow, hcodePoint⟩ := h
  have hisHigh : isHighSurrogate high = true := by
    simp only [isHighSurrogate, Bool.and_eq_true, decide_eq_true_eq]
    omega
  have hisLow : isLowSurrogate low = true := by
    simp only [isLowSurrogate, Bool.and_eq_true, decide_eq_true_eq]
    omega
  refine ⟨hisHigh, ?_⟩
  rw [ofSurrogates?, hisHigh, hisLow, ← hcodePoint]
  exact charOf?_toNat c

/-! ## Characters -/

theorem bind_prepend (c : Char) (read : Option (Text × Text)) :
    (do
      let (text, rest) ← read
      return (c :: text, rest)) = read.map (prepend c) := by
  cases read <;> rfl

/-- A character that needs no escape is read as itself. -/
theorem readString?_plain (hcontrol : 0x20 ≤ c.toNat) (hquote : c ≠ '"') (hslash : c ≠ '\\')
    (rest : Text) : readString? (c :: rest) = (readString? rest).map (prepend c) := by
  rw [readString?, if_neg (by omega), bind_prepend]
  · exact hquote
  all_goals intros; contradiction

/-- An escape by a letter is read as its character. -/
theorem readString?_letter {letter : Char} (h : (letter, c) ∈ escapes) (rest : Text) :
    readString? ('\\' :: letter :: rest) = (readString? rest).map (prepend c) := by
  have hletter : letter ≠ 'u' ∧ escapes.lookup letter = some c := by
    have hall : ∀ escape ∈ escapes, escape.1 ≠ 'u' ∧ escapes.lookup escape.1 = some escape.2 := by
      decide
    exact hall _ h
  rw [readString?, hletter.2]
  · exact bind_prepend c (readString? rest)
  all_goals
    intros
    exact hletter.1 ‹letter = 'u'›

/-- An escape by a unit is read as its character. -/
theorem readString?_unit (h : SpellsUnit c.toNat digits) (rest : Text) :
    readString? ('\\' :: 'u' :: (digits ++ rest)) = (readString? rest).map (prepend c) := by
  have hunit := h.unitOf?_eq
  obtain ⟨a, b, d, e, rfl⟩ := h.exists_eq
  -- the digits of a second unit are read together with the first one, but it is no first half
  by_cases hnext : ∃ f g i j more, rest = '\\' :: 'u' :: f :: g :: i :: j :: more
  · obtain ⟨f, g, i, j, more, rfl⟩ := hnext
    show readString? ('\\' :: 'u' :: a :: b :: d :: e :: '\\' :: 'u' :: f :: g :: i :: j :: more) = _
    rw [readString?, hunit]
    simp only [isHighSurrogate_toNat, charOf?_toNat, Option.bind_eq_bind, Option.bind_some]
    exact bind_prepend c _
  · show readString? ('\\' :: 'u' :: a :: b :: d :: e :: rest) = _
    rw [readString?, hunit]
    · simp only [charOf?_toNat, Option.bind_eq_bind, Option.bind_some]
      exact bind_prepend c _
    · intro f g i j more heq
      exact hnext ⟨f, g, i, j, more, heq⟩

/-- Two escaped surrogates are read as one character. -/
theorem readString?_pair {high low : Nat} {digits' : Text} (hhigh : SpellsUnit high digits)
    (hlow : SpellsUnit low digits') (hisHigh : isHighSurrogate high = true)
    (hchar : ofSurrogates? high low = some c) (rest : Text) :
    readString? ('\\' :: 'u' :: (digits ++ '\\' :: 'u' :: (digits' ++ rest))) =
      (readString? rest).map (prepend c) := by
  have hfirst := hhigh.unitOf?_eq
  have hsecond := hlow.unitOf?_eq
  obtain ⟨a, b, d, e, rfl⟩ := hhigh.exists_eq
  obtain ⟨f, g, i, j, rfl⟩ := hlow.exists_eq
  show readString? ('\\' :: 'u' :: a :: b :: d :: e :: '\\' :: 'u' :: f :: g :: i :: j :: rest) = _
  rw [readString?, hfirst]
  simp only [hisHigh, if_true, hsecond, hchar, Option.bind_eq_bind, Option.bind_some]
  exact bind_prepend c _

/-! ## Strings -/

/-- Every spelling of a character is read as the character. -/
theorem readString?_spelled (h : SpellsChar c spelled) (rest : Text) :
    readString? (spelled ++ rest) = (readString? rest).map (prepend c) := by
  cases h with
  | plain hcontrol hquote hslash => exact readString?_plain hcontrol hquote hslash rest
  | letter h => exact readString?_letter h rest
  | units h =>
    have hchar := Text.isCharUnits_charUnits c
    generalize Text.charUnits c = units at h hchar
    cases hchar with
    | single =>
      obtain ⟨digits, spelled, hunit, hnil, rfl⟩ := List.forall₂_cons_left_iff.mp h
      obtain rfl := List.forall₂_nil_left_iff.mp hnil
      simpa using readString?_unit hunit rest
    | pair hpair =>
      obtain ⟨digits, spelled, hhigh, hrest, rfl⟩ := List.forall₂_cons_left_iff.mp h
      obtain ⟨digits', spelled, hlow, hnil, rfl⟩ := List.forall₂_cons_left_iff.mp hrest
      obtain rfl := List.forall₂_nil_left_iff.mp hnil
      obtain ⟨hisHigh, hread⟩ := ofSurrogates?_of_pair hpair
      simpa using readString?_pair hhigh hlow hisHigh hread rest

/-- A string is read up to its closing quote. -/
theorem readString?_append (h : SpellsText text spelled) (rest : Text) :
    readString? (spelled ++ '"' :: rest) = some (text, rest) := by
  induction h with
  | nil => rw [List.nil_append, readString?]
  | cons hchar _ ih =>
    rw [List.append_assoc, readString?_spelled hchar, ih]
    rfl

end JvmSource.Json
