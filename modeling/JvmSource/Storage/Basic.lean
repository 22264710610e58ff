import JvmSource.Text.Units

/-!
# Storage

What is asked of the place where files are kept, whether that is a disk or a value. Each request
tells whether it was met.
-/

namespace JvmSource

/-- A place where files are kept under paths. -/
structure Storage (m : Type → Type) where
  /-- The content of a file, if it can be read. -/
  read : Text → m (Option (List UInt8))
  /-- Makes a directory and those that it lies in, unless they are there. -/
  makeDirectories : Text → m Bool
  /-- Gives a file a new content, whether or not it is there; all of it is written or nothing. -/
  overwrite : Text → List UInt8 → m Bool

/-- The text of a file, if it can be read and is UTF-8. -/
def Storage.readText {m : Type → Type} [Monad m] (storage : Storage m) (path : Text) :
    m (Option Text) :=
  return (← storage.read path).bind Text.ofUtf8?

end JvmSource
