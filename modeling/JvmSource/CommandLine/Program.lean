import JvmSource.CommandLine.Arguments
import JvmSource.Config.Load
import JvmSource.Script.Load
import JvmSource.Script.Render

/-!
# The program

A run renders one script into one source file and tells what it has done.
-/

namespace JvmSource.CommandLine

/-- How a run ends. -/
structure Exit where
  /-- Zero for success, one for a failure, two for arguments that cannot be understood. -/
  code : UInt32
  output : Text
  errors : Text
deriving DecidableEq, Repr

/-- How the program is used. -/
def usage : Text :=
  ("Usage: javagen [-v] [-d] render -s SCRIPT -o OUTPUT [-c CONFIG]\n" ++
    "         [--fully-qualified-types PATTERN] [--no-javadoc] [--encoding NAME]\n").toList

/-- What is said about a rendered file: whether it was written, and its imports. -/
def reportText (report : Script.Report) : Text :=
  let outcome := match report.outcome with
    | .unchanged => " unchanged\n".toList
    | .written bytes => " written (".toList ++ Text.decimal bytes ++ " bytes)\n".toList
  report.path ++ outcome ++
    report.imports.flatMap fun name => "  import ".toList ++ name ++ ['\n']

/-- What is said about a failure: the widest attempt first, then its causes. -/
def failureText (failure : Failure) : Text :=
  match failure.lines with
  | [] => "Error\n".toList
  | first :: causes =>
    "Error: ".toList ++ first ++ ['\n'] ++
      (if causes.isEmpty then [] else "\nCaused by:\n".toList) ++
      causes.flatMap fun cause => "    ".toList ++ cause ++ ['\n']

/-- Does what a request asks for. -/
def perform {m : Type → Type} [Monad m] (storage : Storage m) (request : Request) :
    ExceptT Failure m Script.Report := do
  let config ← Config.load storage request.config request.overrides
  let script ← Script.load storage request.script
  script.render storage request.output config

/-- Runs the program. -/
def run {m : Type → Type} [Monad m] (storage : Storage m) (environment : Option Text)
    (args : List Text) : m Exit := do
  match parse environment args with
  | .error .help => return ⟨0, usage, []⟩
  | .error .misuse => return ⟨2, [], usage⟩
  | .ok request =>
    match ← (perform storage request).run with
    | .ok report => return ⟨0, reportText report, []⟩
    | .error failure => return ⟨1, [], failureText failure⟩

end JvmSource.CommandLine
