import JvmSource.Text.Basic

/-!
# Identifiers and dotted paths

An identifier starts with a letter or an underscore and goes on with letters, numbers and
underscores of any script. A dotted path is one or more identifiers joined by single dots.
-/

namespace JvmSource

namespace Identifier

/-- Characters that an identifier may start with. -/
def starts (c : Char) : Bool := Unicode.isLetter c || c == '_'

/-- Characters that an identifier may go on with. -/
def continues (c : Char) : Bool := Unicode.isLetter c || Unicode.isNumber c || c == '_'

/-- Whether a text is an identifier. -/
def accepts : Text → Bool
  | [] => false
  | c :: rest => starts c && rest.all continues

end Identifier

/-- The identifiers of a dotted path, if the text is one. -/
def pathNames? (text : Text) : Option (List Text) :=
  let names := Text.split '.' text
  if names.all Identifier.accepts then some names else none

end JvmSource
