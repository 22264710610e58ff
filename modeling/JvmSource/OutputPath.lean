import JvmSource.Dialect.Basic
import JvmSource.Text.Order

/-!
# Output paths

The last name of a path selects the dialect by its extension and is the name of the class. Slashes
separate the names of a path; empty names and single dots lead nowhere.
-/

namespace JvmSource

namespace OutputPath

/-- The names of a path, in order. -/
def components (path : Text) : List Text :=
  (Text.split '/' path).filter fun name => name != [] && name != ['.']

/-- The last name of a path, unless it leads upwards. -/
def fileName? (path : Text) : Option Text := do
  let name ← (components path).getLast?
  if name = ['.', '.'] then none else some name

/-- Cuts a file name at its last dot into a stem and an extension. -/
def cutExtension? (name : Text) : Option (Text × Text) :=
  let extension := (name.reverse.takeWhile (· != '.')).reverse
  if extension.length = name.length then none
  else some (name.take (name.length - extension.length - 1), extension)

/-- Removes the names at the end of a path that lead nowhere. The first name stays: it makes the
path start at the root if it is empty, and here if it is a dot. -/
def dropIdle : List Text → List Text
  | [] => []
  | first :: rest =>
    first :: (rest.reverse.dropWhile fun name => name == [] || name == ['.']).reverse

/-- The path of the directory that a path lies in, empty if it is the current one. -/
def parent (path : Text) : Text :=
  let names := dropIdle (dropIdle (Text.split '/' path)).dropLast
  if names = [[]] then ['/'] else ['/'].intercalate names

end OutputPath

/-- Why no source file can be written to a path. -/
inductive PathFault where
  /-- The path ends in no file name. -/
  | missingName (path : Text)
  /-- No dialect has the extension; a name without a dot counts as one. -/
  | unknownExtension (extension : Text)
deriving DecidableEq, Repr

/-- The dialect of the file at a path and the name of its class. -/
def Dialect.forPath (path : Text) : Except PathFault (Dialect × Text) :=
  match OutputPath.fileName? path with
  | none => .error (.missingName path)
  | some name =>
    match OutputPath.cutExtension? name with
    | none => .error (.unknownExtension name)
    | some (className, extension) =>
      match ofExtension? extension with
      | none => .error (.unknownExtension extension)
      | some dialect => .ok (dialect, className)

end JvmSource
