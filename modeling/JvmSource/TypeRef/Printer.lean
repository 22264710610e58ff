import JvmSource.TypeRef.Basic

/-!
# Printing type references

Arguments are separated by a comma and a space; a nullable one is followed by a question mark.
-/

namespace JvmSource

mutual

/-- The text of a type reference. -/
def TypeRef.print : TypeRef → Text
  | .mk names suffix => Text.dotted names ++ suffix.print

/-- The text of a suffix. -/
def Suffix.print : Suffix → Text
  | .empty => []
  | .plain bracket args => bracket.opening :: (TypeArg.printAll args ++ [bracket.closing])
  | .verbatim text => text

/-- The text of an argument list, without its brackets. -/
def TypeArg.printAll : List TypeArg → Text
  | [] => []
  | [arg] => arg.print
  | arg :: rest => arg.print ++ ',' :: ' ' :: TypeArg.printAll rest

/-- The text of one argument. -/
def TypeArg.print : TypeArg → Text
  | .mk type nullable => type.print ++ if nullable then ['?'] else []

end

end JvmSource
