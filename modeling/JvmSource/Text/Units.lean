import JvmSource.Text.Basic

/-!
# Code units

The UTF-16 code units and the UTF-8 bytes that a text is stored as.
-/

namespace JvmSource.Text

/-- The UTF-16 code units of a character: two surrogates beyond the basic plane, else one. -/
def charUnits (c : Char) : List Nat :=
  let n := c.toNat
  if n < 0x10000 then [n] else [0xD800 + (n - 0x10000) / 0x400, 0xDC00 + (n - 0x10000) % 0x400]

/-- The UTF-16 code units of a text. -/
def units (text : Text) : List Nat := text.flatMap charUnits

/-- The UTF-8 bytes of a text. -/
def utf8 (text : Text) : List UInt8 := text.flatMap String.utf8EncodeChar

/-- The text with the given UTF-8 bytes, if they are valid. -/
def ofUtf8? (bytes : List UInt8) : Option Text :=
  (String.fromUTF8? ⟨bytes.toArray⟩).map String.toList

end JvmSource.Text
