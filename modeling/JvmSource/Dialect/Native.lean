import JvmSource.Dialect.Basic
import JvmSource.TypeRef.Basic

/-!
# Native types

A dialect may spell boxed types and arrays in its own way: in Kotlin `java.lang.Integer[]` is
`kotlin.Array<kotlin.Int?>`. The spelling is defined twice, on the text of a reference and on a
parsed reference.
-/

namespace JvmSource.Policy

/-- The native spelling of a type without arguments, which is its own if there is no other. -/
def nativePath (policy : Policy) (path : Text) : Text :=
  (policy.nativeTypes.lookup path).getD path

/-- Removes the `[]` pairs at the end of a text, of which it holds at most `bound`, and counts
them. -/
def stripDimensions : (bound : Nat) → Text → Text × Nat
  | 0, text => (text, 0)
  | bound + 1, text =>
    match ['[', ']'].isSuffixOf? text with
    | some element =>
      let (base, dimensions) := stripDimensions bound element
      (base, dimensions + 1)
    | none => (text, 0)

/-- The text of an array type: each dimension wraps the text in the array type of the dialect. -/
def wrapText (array : Text) : (dimensions : Nat) → Text → Text
  | 0, element => element
  | dimensions + 1, element => wrapText array dimensions (array ++ '<' :: element ++ ['?', '>'])

/-- The native spelling of the text of a type. -/
def nativeName (policy : Policy) (text : Text) : Text :=
  match policy.arrayType with
  | none => policy.nativePath text
  | some array =>
    let (base, dimensions) := stripDimensions text.length text
    wrapText array dimensions (policy.nativePath base)

/-- An array type: each dimension wraps the type in the array type of the dialect. -/
def wrapType (array : Text) : (dimensions : Nat) → TypeRef → TypeRef
  | 0, element => element
  | dimensions + 1, element =>
    wrapType array dimensions
      (.mk (Text.split '.' array) (.plain .angle [.mk element true]))

/-- The native spelling of a type reference. Its arguments are left as they are. -/
def nativeType (policy : Policy) (type : TypeRef) : TypeRef :=
  let dimensions := if policy.arrayType.isSome then type.suffix.arrayDimensions else 0
  if dimensions = 0 && !type.suffix.isEmpty then type
  else
    let names :=
      match policy.nativeTypes.lookup type.path with
      | some native => Text.split '.' native
      | none => type.names
    match policy.arrayType with
    | some array => wrapType array dimensions (.mk names .empty)
    | none => .mk names .empty

end JvmSource.Policy
