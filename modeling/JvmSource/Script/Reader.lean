import JvmSource.Fault
import JvmSource.Json.Reader
import JvmSource.Script.Basic

/-!
# Reading scripts

A script is a JSON array of steps. A step is an object, with its kind under the key `step`, or an
array of its kind and its fields in order. A field that has a default may be missing; in an array,
so may all after it. In an object no key that means something may be repeated, and every other key
is ignored.
-/

namespace JvmSource.Script

/-- Whether no key of a list is repeated in an object. -/
def unambiguous (keys : List Text) (members : List (Text × Json)) : Bool :=
  keys.all fun key => members.countP (·.1 == key) ≤ 1

/-! ## Arguments -/

/-- The number of names to be written of a reference, which is one if nothing is said about it. -/
def keepOf? : Option Json → Option UInt64
  | none => some 1
  | some value => do
    let keep ← value.integer?
    if 0 ≤ keep ∧ keep < UInt64.size then some (UInt64.ofNat keep.toNat) else none

/-- The reference that an object describes. -/
def referenceOf? (members : List (Text × Json)) : Option Arg := do
  let typeKey := "type".toList
  let keepKey := "keep".toList
  if unambiguous [typeKey, keepKey] members then
    let type ← (← members.lookup typeKey).text?
    let keep ← keepOf? (members.lookup keepKey)
    return .reference type keep
  else none

mutual

/-- The argument that a value describes. -/
def argOf? : Json → Option Arg
  | .object members => referenceOf? members
  | .array items => (argsOf? items).map .list
  | .bool value => some (.bool value)
  | .integer value =>
    if Int64.minValue.toInt ≤ value ∧ value ≤ Int64.maxValue.toInt then
      some (.int (Int64.ofInt value))
    else none
  | .string text => some (.text text)
  | .real _ => none
  | .null => none

/-- The arguments that several values describe. -/
def argsOf? : List Json → Option (List Arg)
  | [] => some []
  | item :: items => do return (← argOf? item) :: (← argsOf? items)

end

/-! ## Steps -/

/-- The kinds of steps. -/
inductive Kind where
  | package
  | imports
  | serial
  | docComment
  | header
  | override
  | println
  | print
deriving DecidableEq, Repr

namespace Kind

/-- All kinds. -/
def all : List Kind :=
  [package, imports, serial, docComment, header, override, println, print]

/-- The name of a kind in a script. -/
def name : Kind → Text
  | package => "package".toList
  | imports => "imports".toList
  | serial => "serial".toList
  | docComment => "javadoc".toList
  | header => "header".toList
  | override => "override".toList
  | println => "println".toList
  | print => "print".toList

/-- The kind with a name. -/
def ofName? (name : Text) : Option Kind := all.find? (·.name == name)

/-- The keys of the fields of a step, in order. -/
def keys : Kind → List Text
  | package => ["name".toList]
  | imports | serial => []
  | docComment | header | println | print => ["text".toList, "args".toList]
  | override => ["when".toList, "inherit".toList]

end Kind

/-- A truth value that may be missing. -/
def boolOr? (default : Bool) : Option Json → Option Bool
  | none => some default
  | some value => value.bool?

/-- A text that may not be missing. -/
def textOf? (field : Option Json) : Option Text := do (← field).text?

/-- A list of arguments, which is empty if it is missing. -/
def argListOf? : Option Json → Option (List Arg)
  | none => some []
  | some (.array items) => argsOf? items
  | some _ => none

/-- The step of a kind with the given fields. -/
def stepOf? : Kind → List (Option Json) → Option Step
  | .package, [name] => return .package (← textOf? name)
  | .imports, [] => some .imports
  | .serial, [] => some .serial
  | .docComment, [text, args] => return .docComment (← textOf? text) (← argListOf? args)
  | .header, [text, args] => return .header (← textOf? text) (← argListOf? args)
  | .override, [wanted, inherited] =>
    return .override (← boolOr? true wanted) (← boolOr? false inherited)
  | .println, [text, args] =>
    return .println (← textOf? (text.or (some (.string [])))) (← argListOf? args)
  | .print, [text, args] => return .print (← textOf? text) (← argListOf? args)
  | _, _ => none

/-- The key of the kind of a step. -/
def kindKey : Text := "step".toList

/-- The step that an object describes. -/
def stepOfObject? (members : List (Text × Json)) : Option Step := do
  let kind ← Kind.ofName? (← textOf? (members.lookup kindKey))
  if unambiguous (kindKey :: kind.keys) members then
    stepOf? kind (kind.keys.map fun key => members.lookup key)
  else none

/-- The step that an array of its kind and its fields describes. -/
def stepOfArray? : List Json → Option Step
  | [] => none
  | name :: fields => do
    let kind ← Kind.ofName? (← name.text?)
    let missing := kind.keys.length - fields.length
    stepOf? kind (fields.map some ++ List.replicate missing none)

/-- The step that a value describes. -/
def stepOfJson? : Json → Option Step
  | .object members => stepOfObject? members
  | .array items => stepOfArray? items
  | _ => none

/-- The script that a value describes. -/
def ofJson? : Json → Option Script
  | .array items => items.mapM stepOfJson?
  | _ => none

/-- The script that a text describes. -/
def parse? (text : Text) : Option Script := do ofJson? (← Json.parse? text)

/-- Reads a script. -/
def parse (text : Text) : Except Failure Script :=
  match parse? text with
  | some script => .ok script
  | none => .error (Fault.invalidScript.failure.during "Failed to parse body script".toList)

end JvmSource.Script
