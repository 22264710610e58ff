import JvmSource.Config.Basic
import JvmSource.Toml.Reader

/-!
# Reading configurations

A configuration is a TOML document. Each setting has a key; other keys are ignored.
-/

namespace JvmSource.Config

/-- The setting under a key, if the key is there; fails if its value is not of the right type. -/
def setting? {α : Type} (get? : Toml → Option α) (table : Toml.Table) (key : Text) :
    Option (Option α) :=
  match table.get? key with
  | none => some none
  | some value => return some (← get? value)

/-- The settings in a table. -/
def ofTable? (table : Toml.Table) : Option Config := do
  let defaults : Config := {}
  let excluded ← setting? Toml.text? table "fully_qualified_types".toList
  let charset ← setting? Toml.text? table "encoding".toList
  let docComments ← setting? Toml.bool? table "javadoc".toList
  let newline ← setting? Toml.text? table "newline".toList
  let indent ← setting? Toml.text? table "indent".toList
  return {
    excluded := excluded
    charset := charset.getD defaults.charset
    docComments := docComments.getD defaults.docComments
    newline := newline.getD defaults.newline
    indent := indent }

/-- Reads a configuration. -/
def parse (text : Text) : Except Fault Config :=
  match Toml.parse? text >>= ofTable? with
  | some config => .ok config
  | none => .error .invalidConfig

end JvmSource.Config
