import JvmSource.Numeral

/-!
# JSON values

Objects keep all their members in the order in which they are written, repeated keys included, so
that whoever reads a value decides what a repeated key means.
-/

namespace JvmSource

/-- A JSON value. -/
inductive Json where
  | null
  | bool (value : Bool)
  /-- An integer of 64 bits, with or without a sign. -/
  | integer (value : Int)
  /-- Any other number. -/
  | real (numeral : Numeral)
  | string (text : Text)
  | array (items : List Json)
  | object (members : List (Text × Json))

namespace Json

/-- The text of a value that is one. -/
def text? : Json → Option Text
  | .string value => some value
  | _ => none

/-- The truth value of a value that is one. -/
def bool? : Json → Option Bool
  | .bool value => some value
  | _ => none

/-- The integer of a value that is one. -/
def integer? : Json → Option Int
  | .integer value => some value
  | _ => none

end Json

end JvmSource
