import JvmSource.Text.Units

/-!
# Hash codes of text

The hash code that the Java library gives to a string: a polynomial in 31 over the UTF-16 code
units, in 32-bit arithmetic.
-/

namespace JvmSource

/-- The hash code of a sequence of code units, continued from a value. -/
def hashUnits (start : Int32) (units : List Nat) : Int32 :=
  units.foldl (fun hash unit => hash * 31 + Int32.ofNat unit) start

/-- The hash code of a text. -/
def hashCode (text : Text) : Int32 := hashUnits 0 text.units

end JvmSource
