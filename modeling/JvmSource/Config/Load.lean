import JvmSource.Config.Reader
import JvmSource.Storage.Basic
import JvmSource.Text.Quoted

/-!
# Loading configurations
-/

namespace JvmSource.Config

/-- The configuration in a file. -/
def readFile {m : Type → Type} [Monad m] (storage : Storage m) (path : Text) :
    ExceptT Failure m Config := do
  let failed (fault : Fault) : Failure :=
    fault.failure.during ("Failed to load config: ".toList ++ Text.quote path)
  match ← storage.readText path with
  | none => throw (failed (.storage path))
  | some text =>
    match parse text with
    | .ok config => return config
    | .error fault => throw (failed fault)

/-- The configuration in a file, or the default one if no file is named, with overrides in place. -/
def load {m : Type → Type} [Monad m] (storage : Storage m) (path : Option Text)
    (overrides : Overrides) : ExceptT Failure m Config := do
  match path with
  | none => return Config.override {} overrides
  | some path => return (← readFile storage path).override overrides

end JvmSource.Config
