import JvmSource.Text.Basic

/-!
# Type references

A type reference is a dotted path followed by nothing, by one bracket group of further references,
or by some other bracketed text that is kept as it is: arrays, wildcards, bounds, several groups.
-/

namespace JvmSource

/-- The two kinds of brackets that hold type arguments. -/
inductive Bracket where
  | angle
  | square
deriving DecidableEq, Repr

namespace Bracket

/-- The opening character. -/
def opening : Bracket → Char
  | angle => '<'
  | square => '['

/-- The closing character. -/
def closing : Bracket → Char
  | angle => '>'
  | square => ']'

end Bracket

mutual

/-- A reference to a type: the names of its path, and what follows the path. -/
inductive TypeRef where
  | mk (names : List Text) (suffix : Suffix)

/-- What follows the path of a type reference. -/
inductive Suffix where
  | empty
  | plain (bracket : Bracket) (args : List TypeArg)
  | verbatim (text : Text)

/-- An argument of a bracket group, which a question mark may declare nullable. -/
inductive TypeArg where
  | mk (type : TypeRef) (nullable : Bool)

end

namespace Suffix

/-- A suffix that is not taken apart. -/
def ofText : Text → Suffix
  | [] => empty
  | text => verbatim text

/-- The number of `[]` pairs that a text consists of. -/
def emptyPairs? : Text → Option Nat
  | [] => some 0
  | '[' :: ']' :: rest => (emptyPairs? rest).map (· + 1)
  | _ => none

/-- The number of array dimensions, none unless the suffix is nothing but `[]` pairs. -/
def arrayDimensions : Suffix → Nat
  | verbatim text => (emptyPairs? text).getD 0
  | _ => 0

/-- Whether nothing follows the path. -/
def isEmpty : Suffix → Bool
  | empty => true
  | _ => false

end Suffix

namespace TypeArg

/-- The type of the argument. -/
def type : TypeArg → TypeRef
  | mk type _ => type

/-- Whether the argument carries a question mark. -/
def nullable : TypeArg → Bool
  | mk _ nullable => nullable

end TypeArg

namespace TypeRef

/-- The names of the path. -/
def names : TypeRef → List Text
  | mk names _ => names

/-- What follows the path. -/
def suffix : TypeRef → Suffix
  | mk _ suffix => suffix

/-- The dotted path. -/
def path (type : TypeRef) : Text := Text.dotted type.names

/-- The last name of the path. -/
def simpleName (type : TypeRef) : Text := type.names.getLast?.getD []

/-- Whether the path has more than one name. -/
def isQualified (type : TypeRef) : Bool := 1 < type.names.length

end TypeRef

end JvmSource
