import JvmSource.Text.Units
import JvmSource.Text.Quoted

/-!
# Character sets

The encodings that files can be written in. A text is encoded as a whole or not at all.
-/

namespace JvmSource

/-- An encoding of text as bytes. -/
inductive Charset where
  | utf8
  | latin1
  | ascii
deriving DecidableEq, Repr

namespace Charset

/-- The name of an encoding. -/
def name : Charset → Text
  | utf8 => "UTF-8".toList
  | latin1 => "ISO-8859-1".toList
  | ascii => "US-ASCII".toList

/-- The encoding with a name, in which the case of ASCII letters does not matter and an underscore
may stand for a hyphen. -/
def ofName? (name : Text) : Option Charset :=
  let canonical := name.map fun c => if c = '_' then '-' else c.toUpper
  [("UTF-8".toList, utf8), ("UTF8".toList, utf8),
    ("ISO-8859-1".toList, latin1), ("ISO8859-1".toList, latin1),
    ("LATIN1".toList, latin1), ("LATIN-1".toList, latin1),
    ("US-ASCII".toList, ascii), ("ASCII".toList, ascii)].lookup canonical

/-- The byte with the value of a code point, if there is one. -/
def byte? (c : Char) : Option UInt8 :=
  if c.toNat < UInt8.size then some c.toNat.toUInt8 else none

/-- Encodes a text with one byte for each character, as long as these bytes are at most `limit`;
fails with the first character that has no such byte. -/
def encodeUpTo (limit : Nat) : Text → Except Char (List UInt8)
  | [] => .ok []
  | c :: rest =>
    match byte? c with
    | some byte =>
      if byte.toNat ≤ limit then (encodeUpTo limit rest).map (byte :: ·) else .error c
    | none => .error c

/-- Encodes a text; fails with the first character that the encoding lacks. -/
def encode : Charset → Text → Except Char (List UInt8)
  | utf8, text => .ok text.utf8
  | latin1, text => encodeUpTo 0xFF text
  | ascii, text => encodeUpTo 0x7F text

end Charset

end JvmSource
