import JvmSource.Unicode.Ranges

/-!
# Scripts

A script is a collection of characters that languages are written with. Names are given in lower
case without separators, the four-letter code first.
-/

namespace JvmSource.Unicode

/-- A script with its names and its characters. -/
structure Script where
  names : List String
  ranges : Ranges

end JvmSource.Unicode
