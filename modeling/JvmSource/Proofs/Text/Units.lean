import Mathlib.Tactic.Common
import JvmSource.Text.Units

/-!
# UTF-16

A character up to U+FFFF is one code unit, its code point. Any other is a pair of surrogates: what
its code point has beyond 0xFFFF goes in twenty bits, ten for each of the two. `IsUnits` says which
code units a text is stored as; by `isUnits_iff`, `Text.units` gives these and no others.
-/

namespace JvmSource.Text

/-- Whether two code units are the surrogates of a code point. -/
structure IsSurrogatePair (high low codePoint : Nat) : Prop where
  high_mem : 0xD800 ≤ high ∧ high ≤ 0xDBFF
  low_mem : 0xDC00 ≤ low ∧ low ≤ 0xDFFF
  codePoint_eq : codePoint = 0x10000 + (high - 0xD800) * 0x400 + (low - 0xDC00)

/-- The code units of a character. -/
inductive IsCharUnits (c : Char) : (units : List Nat) → Prop
  | single (h : c.toNat ≤ 0xFFFF) : IsCharUnits c [c.toNat]
  | pair {high low : Nat} (h : IsSurrogatePair high low c.toNat) : IsCharUnits c [high, low]

/-- The code units of a text. -/
inductive IsUnits : (text : Text) → (units : List Nat) → Prop
  | nil : IsUnits [] []
  | cons {c : Char} {text : Text} {first rest : List Nat} (h : IsCharUnits c first)
      (hrest : IsUnits text rest) : IsUnits (c :: text) (first ++ rest)

variable {c : Char} {text : Text} {units : List Nat}

/-! ## Characters -/

/-- Every code point beyond the basic plane has surrogates. -/
theorem isSurrogatePair_of_lt {codePoint : Nat} (hbeyond : 0x10000 ≤ codePoint)
    (hbound : codePoint < 0x110000) :
    IsSurrogatePair (0xD800 + (codePoint - 0x10000) / 0x400)
      (0xDC00 + (codePoint - 0x10000) % 0x400) codePoint where
  high_mem := by omega
  low_mem := by omega
  codePoint_eq := by omega

theorem isCharUnits_charUnits (c : Char) : IsCharUnits c (charUnits c) := by
  unfold charUnits
  simp only
  split
  · next hbasic => exact .single (by omega)
  · next hbeyond =>
    have hvalid : c.toNat.isValidChar := c.valid
    unfold Nat.isValidChar at hvalid
    exact .pair (isSurrogatePair_of_lt (by omega) (by omega))

/-- A character has no other code units. -/
theorem IsCharUnits.eq (h : IsCharUnits c units) : units = charUnits c := by
  unfold charUnits
  simp only
  cases h with
  | single hbasic => rw [if_pos (by omega)]
  | @pair high low hpair =>
    obtain ⟨hhigh, hlow, hcodePoint⟩ := hpair
    have hhigh_eq : high = 0xD800 + (c.toNat - 0x10000) / 0x400 := by omega
    have hlow_eq : low = 0xDC00 + (c.toNat - 0x10000) % 0x400 := by omega
    rw [if_neg (by omega), ← hhigh_eq, ← hlow_eq]

theorem IsCharUnits.ne_nil (h : IsCharUnits c units) : units ≠ [] := by
  cases h <;> simp

/-! ## Texts -/

theorem units_cons (c : Char) (text : Text) : Text.units (c :: text) = charUnits c ++ text.units :=
  List.flatMap_cons

theorem units_append (front back : Text) :
    Text.units (front ++ back) = front.units ++ back.units :=
  List.flatMap_append

/-- Every text has code units, and no others than those that are computed. -/
theorem isUnits_iff : IsUnits text units ↔ units = text.units := by
  constructor
  · intro h
    induction h with
    | nil => rfl
    | cons hfirst _ ih => rw [hfirst.eq, ih, units_cons]
  · rintro rfl
    induction text with
    | nil => exact .nil
    | cons c text ih => exact .cons (isCharUnits_charUnits c) ih

/-- A supplementary character is one character, four bytes and two code units. -/
example : Text.units "a😀".toList = [0x61, 0xD83D, 0xDE00] ∧
    (Text.utf8 "a😀".toList).length = 5 := by
  decide

end JvmSource.Text
