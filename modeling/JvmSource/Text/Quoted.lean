import JvmSource.Text.Digits
import JvmSource.Unicode.NewGraphic

/-!
# Quoted text in messages

Messages show characters and paths in quotes. A quoted text stays on one line and shows what it
holds: characters without a sign of their own are written as escapes.
-/

namespace JvmSource.Text

/-- The code point of a character between braces, as in `\u{301}`. -/
def codePointEscape (c : Char) : Text :=
  ['\\', 'u', '{'] ++ hexadecimal c.toNat ++ ['}']

/-- The Hangul letters that fill a place and have no sign. -/
def isFiller (c : Char) : Bool := [0x115F, 0x1160, 0x3164, 0xFFA0].contains c.toNat

/-- Whether a character is shown by its own sign. Letters are, even those that are drawn together
with the letter before them, unless they are fillers; marks that are drawn so are not. -/
def showsItself (c : Char) : Bool :=
  !isFiller c && (Unicode.isLetter c || Unicode.newGraphic.contains c ||
    Unicode.isPrintable c && !Unicode.isGraphemeExtend c)

/-- A character as it stands in a quoted text in which the given quotes are escaped. -/
def escapeChar (quotes : Text) (c : Char) : Text :=
  if c = '\x00' then ['\\', '0']
  else if c = '\t' then ['\\', 't']
  else if c = '\r' then ['\\', 'r']
  else if c = '\n' then ['\\', 'n']
  else if c = '\\' || quotes.contains c then ['\\', c]
  else if showsItself c then [c]
  else codePointEscape c

/-- A character in single quotes, of which only the single quote is escaped. -/
def quoteChar (c : Char) : Text := ['\''] ++ escapeChar ['\''] c ++ ['\'']

/-- A text in double quotes, in which quotes of both kinds are escaped. -/
def quote (text : Text) : Text := ['"'] ++ text.flatMap (escapeChar ['"', '\'']) ++ ['"']

end JvmSource.Text
