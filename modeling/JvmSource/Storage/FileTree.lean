import JvmSource.OutputPath
import JvmSource.Storage.Basic

/-!
# File trees

A file tree says what lies at each location below a working directory. It is storage that is a
value, so that what an operation changes can be stated and computed.

A location is a list of names. It starts with two dots for each step above the working directory,
or with a slash if it is given from the root; all that is known there is that these directories are
present.
-/

namespace JvmSource

/-- What lies at a location. -/
inductive FileTree.Node where
  | directory
  | file (content : List UInt8)
deriving DecidableEq, Repr

/-- What lies at each location; the first entry for a location counts. -/
structure FileTree where
  nodes : List (List Text × FileTree.Node)
deriving DecidableEq, Repr

namespace FileTree

/-- The tree without files. -/
def empty : FileTree := ⟨[]⟩

/-- The name of the directory above. -/
def up : Text := ['.', '.']

/-- The name of the root. -/
def root : Text := ['/']

/-- What lies at a location. -/
def node? (tree : FileTree) (location : List Text) : Option Node :=
  if location.all fun name => name == up || name == root then some .directory
  else tree.nodes.lookup location

/-- The content of the file at a location. -/
def content? (tree : FileTree) (location : List Text) : Option (List UInt8) :=
  match tree.node? location with
  | some (.file content) => some content
  | _ => none

/-- Puts something at a location. -/
def put (tree : FileTree) (location : List Text) (node : Node) : FileTree :=
  ⟨(location, node) :: tree.nodes.filter (·.1 != location)⟩

/-- The files below the working directory, with their locations. -/
def files (tree : FileTree) : List (List Text × List UInt8) :=
  tree.nodes.filterMap fun
    | (location, .file content) =>
      if location.head?.all fun name => name == up || name == root then none
      else some (location, content)
    | (_, .directory) => none

/-! ## Paths -/

/-- Whether the system takes a path at all: it has fewer than 4096 bytes, none of them zero. -/
def admits (path : Text) : Bool := path.byteSize < 4096 && !path.contains '\x00'

/-- Whether something new can have a name: it has at most 255 bytes. -/
def admitsName (name : Text) : Bool := name.byteSize ≤ 255

/-- Where a path starts. -/
def start (path : Text) : List Text := if path.head? = some '/' then [root] else []

/-- The location that a name leads to from a directory. -/
def step (location : List Text) (name : Text) : List Text :=
  if name ≠ up then location ++ [name]
  else
    match location.getLast? with
    | none => [up]
    | some last =>
      if last = root then location
      else if last = up then location ++ [up]
      else location.dropLast

/-- The directory that names lead to, if there is one all the way. -/
def descend? (tree : FileTree) : (location : List Text) → List Text → Option (List Text)
  | location, [] => some location
  | location, name :: names =>
    match tree.node? (step location name) with
    | some .directory => tree.descend? (step location name) names
    | _ => none

/-- The location of the file at a path, if the directory that it lies in is there. A path that ends
in a slash or in a single dot is not that of a file. -/
def locate? (tree : FileTree) (path : Text) : Option (List Text) := do
  let name ← OutputPath.fileName? path
  let last ← (Text.split '/' path).getLast?
  if admits path && last == name then
    let directory ← tree.descend? (start path) (OutputPath.components path).dropLast
    return directory ++ [name]
  else none

/-! ## Operations -/

/-- The content of the file at a path. -/
def read? (tree : FileTree) (path : Text) : Option (List UInt8) := do
  tree.content? (← tree.locate? path)

/-- Gives the file at a path a new content, if something lies there that is no directory or could
be made. -/
def overwrite? (tree : FileTree) (path : Text) (content : List UInt8) : Option FileTree := do
  let location ← tree.locate? path
  match tree.node? location with
  | some .directory => none
  | some (.file _) => return tree.put location (.file content)
  | none =>
    if admitsName (location.getLast?.getD []) then return tree.put location (.file content)
    else none

/-- Makes the directories that names lead to, and tells whether they are there in the end. -/
def makeFrom : (tree : FileTree) → (location : List Text) → List Text → Bool × FileTree
  | tree, _, [] => (true, tree)
  | tree, location, name :: names =>
    let next := step location name
    match tree.node? next with
    | some .directory => tree.makeFrom next names
    | some (.file _) => (false, tree)
    | none =>
      if admitsName name then (tree.put next .directory).makeFrom next names else (false, tree)

/-- Makes the directory at a path and those that it lies in. -/
def makeDirectories (tree : FileTree) (path : Text) : Bool × FileTree :=
  if admits path then tree.makeFrom (start path) (OutputPath.components path) else (false, tree)

/-- A file tree as storage. -/
def storage : Storage (StateM FileTree) where
  read path := fun tree => (tree.read? path, tree)
  makeDirectories path := fun tree => tree.makeDirectories path
  overwrite path content := fun tree =>
    match tree.overwrite? path content with
    | some after => (true, after)
    | none => (false, tree)

end FileTree

end JvmSource
