import Mathlib.Algebra.BigOperators.Fin
import Mathlib.Data.Int.ModEq
import Mathlib.Tactic.Ring
import JvmSource.Proofs.Text.Units
import JvmSource.SourceHash

/-!
# The hash code is a polynomial

Up to multiples of 2^32, the hash code of a text is the polynomial in 31 that has the code units of
the text as coefficients, the last of them constant. One unit takes a hash to 31 times itself plus
the unit (`toInt_step`); from this `hashUnits_modEq` has the hash of any sequence of units,
continued from any value. As a hash is a signed number of 32 bits, this determines it
(`hashCode_polynomial`).
-/

namespace JvmSource

/-- The polynomial in 31 with the given coefficients, of which the last is constant. -/
def polynomial (units : List Nat) : Int :=
  ∑ i : Fin units.length, (units.get i : Int) * 31 ^ (units.length - (i + 1))

variable {start : Int32} {units : List Nat} {text : Text}

theorem polynomial_cons (unit : Nat) (units : List Nat) :
    polynomial (unit :: units) = unit * 31 ^ units.length + polynomial units := by
  simp [polynomial, Fin.sum_univ_succ]

/-! ## Numbers of 32 bits -/

/-- Wrapping around changes a number by a multiple of 2^32. -/
theorem bmod_modEq (n : Int) : n.bmod (2 ^ 32) ≡ n [ZMOD 2 ^ 32] :=
  Int.bmod_emod

/-- A number of 32 bits is the only one in its range that is congruent to it. -/
theorem eq_toInt_iff {word : Int32} {n : Int} :
    n = word.toInt ↔ -2 ^ 31 ≤ n ∧ n < 2 ^ 31 ∧ n ≡ word.toInt [ZMOD 2 ^ 32] := by
  have hlow := word.le_toInt
  have hhigh := word.toInt_lt
  constructor
  · rintro rfl
    exact ⟨hlow, hhigh, rfl⟩
  · rintro ⟨hlow', hhigh', hcongr⟩
    unfold Int.ModEq at hcongr
    omega

/-! ## The hash of a sequence of units -/

/-- A step of the hash is that of the polynomial, up to overflow. -/
theorem toInt_step (hash : Int32) (unit : Nat) :
    (hash * 31 + Int32.ofNat unit).toInt ≡ hash.toInt * 31 + unit [ZMOD 2 ^ 32] := by
  have hproduct : (hash * 31).toInt ≡ hash.toInt * 31 [ZMOD 2 ^ 32] := by
    rw [Int32.toInt_mul]
    exact bmod_modEq _
  have hunit : (Int32.ofNat unit).toInt ≡ unit [ZMOD 2 ^ 32] := by
    rw [Int32.toInt_ofNat']
    exact bmod_modEq _
  rw [Int32.toInt_add]
  exact (bmod_modEq _).trans (hproduct.add hunit)

theorem hashUnits_append (start : Int32) (front back : List Nat) :
    hashUnits start (front ++ back) = hashUnits (hashUnits start front) back :=
  List.foldl_append

/-- The value that a hash is continued from counts once more by 31 for each unit. -/
theorem hashUnits_modEq (start : Int32) (units : List Nat) :
    (hashUnits start units).toInt ≡
      start.toInt * 31 ^ units.length + polynomial units [ZMOD 2 ^ 32] := by
  -- the first unit goes into the value that the rest is continued from
  induction units generalizing start with
  | nil => simp [hashUnits, polynomial]
  | cons unit units ih =>
    calc (hashUnits start (unit :: units)).toInt
        = (hashUnits (start * 31 + Int32.ofNat unit) units).toInt := rfl
      _ ≡ (start * 31 + Int32.ofNat unit).toInt * 31 ^ units.length + polynomial units
          [ZMOD 2 ^ 32] := ih _
      _ ≡ (start.toInt * 31 + unit) * 31 ^ units.length + polynomial units [ZMOD 2 ^ 32] :=
        ((toInt_step start unit).mul_right _).add_right _
      _ = start.toInt * 31 ^ (unit :: units).length + polynomial (unit :: units) := by
        rw [polynomial_cons, List.length_cons]
        ring

/-! ## The hash of a text -/

/-- The hash is the polynomial over the code units, up to overflow. -/
theorem hashCode_modEq (text : Text) :
    (hashCode text).toInt ≡ polynomial text.units [ZMOD 2 ^ 32] := by
  have h := hashUnits_modEq 0 text.units
  rwa [Int32.toInt_zero, zero_mul, zero_add] at h

/-- The hash of two texts goes on from the hash of the first through the units of the second. -/
theorem hashCode_append (front back : Text) :
    hashCode (front ++ back) = hashUnits (hashCode front) back.units := by
  rw [hashCode, Text.units_append, hashUnits_append, ← hashCode]

/-- The hash code of a text is the one integer from -2^31 up to 2^31 that is congruent to the sum of
its code units in UTF-16, each times 31 to the power of the number of units after it. Text before it
adds its own hash code, times 31 to the power of the number of units. -/
theorem hashCode_polynomial (text : Text) :
    (∀ units, text.IsUnits units ↔ units = text.units) ∧
    (∀ hash : Int, hash = (hashCode text).toInt ↔
      -2 ^ 31 ≤ hash ∧ hash < 2 ^ 31 ∧
        hash ≡ ∑ i : Fin text.units.length,
          (text.units.get i : Int) * 31 ^ (text.units.length - (i + 1)) [ZMOD 2 ^ 32]) ∧
    ∀ front : Text, (hashCode (front ++ text)).toInt ≡
      (hashCode front).toInt * 31 ^ text.units.length + (hashCode text).toInt [ZMOD 2 ^ 32] := by
  refine ⟨fun units => Text.isUnits_iff, fun hash => ?_, fun front => ?_⟩
  · have hsum : hash ≡ (hashCode text).toInt [ZMOD 2 ^ 32] ↔
        hash ≡ polynomial text.units [ZMOD 2 ^ 32] :=
      ⟨fun h => h.trans (hashCode_modEq text), fun h => h.trans (hashCode_modEq text).symm⟩
    rw [eq_toInt_iff, hsum, polynomial]
  · rw [hashCode_append]
    calc (hashUnits (hashCode front) text.units).toInt
        ≡ (hashCode front).toInt * 31 ^ text.units.length + polynomial text.units
          [ZMOD 2 ^ 32] := hashUnits_modEq _ _
      _ ≡ (hashCode front).toInt * 31 ^ text.units.length + (hashCode text).toInt
          [ZMOD 2 ^ 32] := (hashCode_modEq text).symm.add_left _

/-- The hash code may be negative, and counts a supplementary character as two units. -/
example : (hashCode "hello".toList).toInt = 99162322 ∧
    (hashCode "a😀".toList).toInt = 97 * 31 ^ 2 + 0xD83D * 31 + 0xDE00 ∧
    (hashCode "polygenelubricants".toList).toInt = -2 ^ 31 := by
  decide

end JvmSource
