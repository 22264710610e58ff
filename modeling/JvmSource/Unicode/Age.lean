import JvmSource.Unicode.Age.Tables
import JvmSource.Unicode.CharSet

/-!
# Ages of characters

The version of the Unicode standard that gave a code point its meaning. A version holds everything
that came before it.
-/

namespace JvmSource.Unicode

/-- What a version of the standard added. -/
structure Edition where
  major : Nat
  minor : Nat
  added : Ranges

/-- The versions of the standard, in order. -/
def editions : List Edition := [
  ⟨1, 1, added1_1⟩, ⟨2, 0, added2_0⟩, ⟨2, 1, added2_1⟩, ⟨3, 0, added3_0⟩, ⟨3, 1, added3_1⟩,
  ⟨3, 2, added3_2⟩, ⟨4, 0, added4_0⟩, ⟨4, 1, added4_1⟩, ⟨5, 0, added5_0⟩, ⟨5, 1, added5_1⟩,
  ⟨5, 2, added5_2⟩, ⟨6, 0, added6_0⟩, ⟨6, 1, added6_1⟩, ⟨6, 2, added6_2⟩, ⟨6, 3, added6_3⟩,
  ⟨7, 0, added7_0⟩, ⟨8, 0, added8_0⟩, ⟨9, 0, added9_0⟩, ⟨10, 0, added10_0⟩, ⟨11, 0, added11_0⟩,
  ⟨12, 0, added12_0⟩, ⟨12, 1, added12_1⟩, ⟨13, 0, added13_0⟩, ⟨14, 0, added14_0⟩,
  ⟨15, 0, added15_0⟩, ⟨15, 1, added15_1⟩, ⟨16, 0, added16_0⟩]

/-- The names of a version: its number, and its number after a `v` without the dot. -/
def Edition.names (edition : Edition) : List String :=
  [toString edition.major ++ "." ++ toString edition.minor,
    "v" ++ toString edition.major ++ toString edition.minor]

/-- The code points that have a meaning in the version with a name. -/
def age? (name : String) : Option CharSet :=
  (editions.findIdx? (·.names.contains name)).map fun last =>
    .ofRanges ((editions.take (last + 1)).flatMap (·.added))

end JvmSource.Unicode
