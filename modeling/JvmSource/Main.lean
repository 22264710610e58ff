import JvmSource.CommandLine.Program

/-!
# The executable

The disk as storage, and the entry point.
-/

namespace JvmSource

/-- Whether an action succeeds. -/
def succeeds (action : IO Unit) : IO Bool :=
  try
    action
    return true
  catch _ => return false

/-- The disk as storage. -/
def disk : Storage IO where
  read path :=
    try return some (← IO.FS.readBinFile (String.ofList path)).toList
    catch _ => return none
  makeDirectories path := succeeds (IO.FS.createDirAll (String.ofList path))
  overwrite path content :=
    succeeds (IO.FS.writeBinFile (String.ofList path) ⟨content.toArray⟩)

end JvmSource

/-- Runs the program on the disk. -/
def main (args : List String) : IO UInt32 := do
  let environment ← IO.getEnv "JAVAGEN_CONFIG"
  let exit ← JvmSource.CommandLine.run JvmSource.disk (environment.map String.toList)
    (args.map String.toList)
  (← IO.getStdout).putStr (String.ofList exit.output)
  (← IO.getStderr).putStr (String.ofList exit.errors)
  return exit.code
