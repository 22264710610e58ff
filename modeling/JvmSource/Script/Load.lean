import JvmSource.Script.Reader
import JvmSource.Storage.Basic

/-!
# Loading scripts
-/

namespace JvmSource.Script

/-- The script in a file. -/
def load {m : Type → Type} [Monad m] (storage : Storage m) (path : Text) :
    ExceptT Failure m Script := do
  match ← storage.readText path with
  | none =>
    throw (Fault.unreadable.failure.during ("Failed to read script: ".toList ++ Text.quote path))
  | some text =>
    match parse text with
    | .ok script => return script
    | .error failure =>
      throw (failure.during ("Invalid script: ".toList ++ Text.quote path))

end JvmSource.Script
