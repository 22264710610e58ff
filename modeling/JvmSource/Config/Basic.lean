import JvmSource.Fault

/-!
# Configuration

What all files of one run have in common.
-/

namespace JvmSource

/-- The settings that sources are written with. -/
structure Config where
  /-- A pattern for the types that are never imported. -/
  excluded : Option Text := none
  /-- The name of the encoding of the files. -/
  charset : Text := "UTF-8".toList
  /-- Whether documentation comments are written. -/
  docComments : Bool := true
  newline : Text := ['\n']
  /-- One level of indentation, if it is not that of the dialect. -/
  indent : Option Text := none
deriving DecidableEq, Repr

/-- Settings that take precedence over those of a configuration. -/
structure Overrides where
  excluded : Option Text := none
  noDocComments : Bool := false
  charset : Option Text := none
deriving DecidableEq, Repr

namespace Config

/-- The encoding that the settings name. -/
def resolveCharset (config : Config) : Except Fault Charset :=
  match Charset.ofName? config.charset with
  | some charset => .ok charset
  | none => .error (.unsupportedCharset config.charset)

/-- The settings with overrides in place. -/
def override (config : Config) (overrides : Overrides) : Config :=
  { config with
    excluded := overrides.excluded.or config.excluded
    docComments := config.docComments && !overrides.noDocComments
    charset := overrides.charset.getD config.charset }

end Config

end JvmSource
