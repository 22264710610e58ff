import JvmSource.Script.Basic
import JvmSource.Writer.Save

/-!
# Rendering scripts

A script is rendered by performing it on a new writer and saving the file that comes of it.
-/

namespace JvmSource

/-- What rendering a file has come to. -/
structure Script.Report where
  path : Text
  dialect : Dialect
  outcome : SaveOutcome
  imports : List Text
  serial : Option Int32
deriving DecidableEq, Repr

/-- Saves the file that a script describes at a path. -/
def Script.render {m : Type → Type} [Monad m] (storage : Storage m) (script : Script)
    (output : Text) (config : Config) : ExceptT Failure m Report := do
  match Writer.create output config .lexical with
  | .error fault =>
    throw (fault.failure.during ("Failed to create writer for ".toList ++ Text.quote output))
  | .ok writer =>
    let file := (script.perform writer).finish
    match ← (file.save storage).run with
    | .error fault =>
      throw (fault.failure.during ("Failed to write output: ".toList ++ Text.quote output))
    | .ok outcome => return {
        path := file.path
        dialect := file.dialect
        outcome := outcome
        imports := file.content.imports.emitted
        serial := file.content.serial }

end JvmSource
