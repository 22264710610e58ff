import JvmSource.Storage.Basic
import JvmSource.Writer.Basic

/-!
# Saving a source file

A file that already holds the bytes to be written is left alone. A text that its encoding cannot
express is not written at all.
-/

namespace JvmSource

/-- What saving a file has done. -/
inductive SaveOutcome where
  | unchanged
  | written (bytes : Nat)
deriving DecidableEq, Repr

namespace SourceFile

/-- The bytes of a source file. -/
def bytes (file : SourceFile) : Except Fault (List UInt8) :=
  (file.charset.encode file.content.text).mapError (.unmappable · file.charset)

/-- Makes the directory at a path, unless the path is empty. -/
def makeParent {m : Type → Type} [Monad m] (storage : Storage m) (parent : Text) :
    ExceptT Fault m Unit := do
  if !parent.isEmpty then
    if !(← storage.makeDirectories parent) then throw (.storage parent)

/-- Saves a source file at its path. -/
def save {m : Type → Type} [Monad m] (storage : Storage m) (file : SourceFile) :
    ExceptT Fault m SaveOutcome := do
  let bytes ← (file.bytes : Except Fault (List UInt8))
  if (← storage.read file.path) = some bytes then return .unchanged
  else
    makeParent storage (OutputPath.parent file.path)
    if ← storage.overwrite file.path bytes then return .written bytes.length
    else throw (.storage file.path)

end SourceFile

end JvmSource
