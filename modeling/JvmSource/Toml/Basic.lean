import JvmSource.Text.Basic

/-!
# TOML tables

A document is a table of tables and values. How a table came about decides what may still be added
to it: a header opens a table once, a dotted key adds to tables that dotted keys or longer headers
have brought about, and nothing is added to a table that is written in braces.
-/

namespace JvmSource

/-- How a table came about. -/
inductive Toml.Origin where
  /-- It has a header of its own, or it is the document. -/
  | header
  /-- It lies on the path of a header. -/
  | implied
  /-- It lies on the path of a dotted key. -/
  | dotted
  /-- It is written in braces. -/
  | braces
deriving DecidableEq, Repr

mutual

/-- A TOML value. -/
inductive Toml where
  | string (text : Text)
  | bool (value : Bool)
  | integer (value : Int)
  /-- A number that is no integer, as it is written. -/
  | float (text : Text)
  /-- A date, a time or both, as it is written. -/
  | moment (text : Text)
  | array (items : List Toml)
  | table (table : Toml.Table)
  /-- The tables that headers in double brackets open. -/
  | tables (tables : List Toml.Table)

/-- A TOML table. -/
inductive Toml.Table where
  | mk (origin : Toml.Origin) (entries : List (Text × Toml))

end

namespace Toml

/-- The text of a value that is one. -/
def text? : Toml → Option Text
  | .string value => some value
  | _ => none

/-- The truth value of a value that is one. -/
def bool? : Toml → Option Bool
  | .bool value => some value
  | _ => none

namespace Table

/-- How a table came about. -/
def origin : Table → Origin
  | mk origin _ => origin

/-- The keys of a table with their values. -/
def entries : Table → List (Text × Toml)
  | mk _ entries => entries

/-- The value of a key. -/
def get? (table : Table) (key : Text) : Option Toml := table.entries.lookup key

/-- A table without entries. -/
def empty (origin : Origin) : Table := mk origin []

end Table

/-- Changes the value of a key, or adds the key. -/
def alterEntry? (key : Text) (change : Option Toml → Option Toml) :
    List (Text × Toml) → Option (List (Text × Toml))
  | [] => return [(key, ← change none)]
  | entry :: entries => do
    if entry.1 = key then return (key, ← change (some entry.2)) :: entries
    else return entry :: (← alterEntry? key change entries)

/-- Changes the last item of a list. -/
def alterLast? {α : Type} (change : α → Option α) : List α → Option (List α)
  | [] => none
  | [last] => return [← change last]
  | item :: items => return item :: (← alterLast? change items)

namespace Table

/-- Changes the value of a key, or adds the key. -/
def alter? (table : Table) (key : Text) (change : Option Toml → Option Toml) : Option Table :=
  return mk table.origin (← alterEntry? key change table.entries)

/-- Changes the table at the end of a path, which leads through the last one of several tables and
only through tables of certain origins. Tables that are missing on the way are made. -/
def alterAt? (made : Origin) (passes : Origin → Bool) (change : Table → Option Table) :
    List Text → Table → Option Table
  | [], root => change root
  | key :: path, root =>
    root.alter? key fun
      | none => return .table (← alterAt? made passes change path (empty made))
      | some (.table inner) =>
        if passes inner.origin then return .table (← alterAt? made passes change path inner)
        else none
      | some (.tables inner) =>
        return .tables (← alterLast? (alterAt? made passes change path) inner)
      | some _ => none

/-- Changes the table at the end of a path in a header. -/
def alterAtHeader? (table : Table) (path : List Text) (change : Table → Option Table) :
    Option Table :=
  alterAt? .implied (· != .braces) change path table

/-- Adds a key that is not there yet. -/
def add? (table : Table) (key : Text) (value : Toml) : Option Table :=
  table.alter? key fun
    | none => some value
    | some _ => none

/-- Gives a value to a dotted key, whose last part is `key`. The last table on its path must have
come about by a dotted key. -/
def assign? (table : Table) (path : List Text) (key : Text) (value : Toml) : Option Table :=
  if path.isEmpty then table.add? key value
  else
    alterAt? .dotted (fun origin => origin == .implied || origin == .dotted)
      (fun inner => if inner.origin == .dotted then inner.add? key value else none) path table

/-- Opens the table of a header, whose last part is `key`. -/
def openTable? (table : Table) (path : List Text) (key : Text) : Option Table :=
  table.alterAtHeader? path fun parent =>
    parent.alter? key fun
      | none => some (.table (empty .header))
      | some (.table inner) =>
        if inner.origin == .implied then some (.table (mk .header inner.entries)) else none
      | some _ => none

/-- Opens one more table for a header in double brackets, whose last part is `key`. -/
def appendTable? (table : Table) (path : List Text) (key : Text) : Option Table :=
  table.alterAtHeader? path fun parent =>
    parent.alter? key fun
      | none => some (.tables [empty .header])
      | some (.tables inner) => some (.tables (inner ++ [empty .header]))
      | some _ => none

end Table

end Toml

end JvmSource
