import JvmSource.Unicode.Ranges

/-!
# Separators, controls and private use

Characters that print as nothing or as no agreed sign. Ranges are those of Unicode 16.
-/

namespace JvmSource.Unicode

/-- Spaces (`Zs`). -/
def spaceSeparators : Ranges := [
  (0x20, 0x20), (0xA0, 0xA0), (0x1680, 0x1680), (0x2000, 0x200A), (0x202F, 0x202F),
  (0x205F, 0x205F), (0x3000, 0x3000)]

/-- The line separator (`Zl`). -/
def lineSeparators : Ranges := [
  (0x2028, 0x2028)]

/-- The paragraph separator (`Zp`). -/
def paragraphSeparators : Ranges := [
  (0x2029, 0x2029)]

/-- Control characters (`Cc`). -/
def controls : Ranges := [
  (0x0, 0x1F), (0x7F, 0x9F)]

/-- Invisible formatting characters (`Cf`). -/
def formats : Ranges := [
  (0xAD, 0xAD), (0x600, 0x605), (0x61C, 0x61C), (0x6DD, 0x6DD), (0x70F, 0x70F), (0x890, 0x891),
  (0x8E2, 0x8E2), (0x180E, 0x180E), (0x200B, 0x200F), (0x202A, 0x202E), (0x2060, 0x2064),
  (0x2066, 0x206F), (0xFEFF, 0xFEFF), (0xFFF9, 0xFFFB), (0x110BD, 0x110BD), (0x110CD, 0x110CD),
  (0x13430, 0x1343F), (0x1BCA0, 0x1BCA3), (0x1D173, 0x1D17A), (0xE0001, 0xE0001),
  (0xE0020, 0xE007F)]

/-- Surrogate code points (`Cs`), which no character has. -/
def surrogates : Ranges := [
  (0xD800, 0xDFFF)]

/-- Private use (`Co`). -/
def privateUse : Ranges := [
  (0xE000, 0xF8FF), (0xF0000, 0xFFFFD), (0x100000, 0x10FFFD)]

end JvmSource.Unicode
