import JvmSource.Dialect.Basic
import JvmSource.Import.Ordering

/-!
# Import blocks

The import block of a file has a statement for each name that needs one. A name is left out if it is
visible anyway, if it is the class of the file, or if it lies in the package of the file. A blank
line stands before each group of names with the same first part.
-/

namespace JvmSource

/-- Why a name needs no import. -/
inductive Elision where
  | ambient
  | ownClass
  | samePackage
deriving DecidableEq, Repr

/-- The statements of an import block, the names that they import, and the names left out. -/
structure ImportBlock where
  text : Text
  emitted : List Text
  elided : List (Text × Elision)
deriving DecidableEq, Repr

/-- What decides about the form of an import block. -/
structure ImportStyle where
  policy : Policy
  className : Text
  order : ImportOrder
  newline : Text

namespace ImportStyle

/-- Whether a name is that of a type directly in a package. -/
def isMember (package qualified : Text) : Bool :=
  ((package ++ ['.']).isPrefixOf? qualified).any (!·.contains '.')

/-- Why a name is left out, if it is. -/
def elision? (style : ImportStyle) (package : Option Text) (qualified : Text) : Option Elision :=
  if style.policy.isAmbient qualified then some .ambient
  else if (style.className.isSuffixOf? qualified).any (·.getLast? == some '.') then some .ownClass
  else if package.any (isMember · qualified) then some .samePackage
  else none

/-- The import block of names in their order, where `previous` is the first part of the name that
was imported last. A name that is left out changes nothing about that. -/
def blockFrom (style : ImportStyle) (package : Option Text) : (previous : Text) → List Text →
    ImportBlock
  | _, [] => ⟨[], [], []⟩
  | previous, name :: names =>
    match style.elision? package name with
    | some reason =>
      let block := style.blockFrom package previous names
      { block with elided := (name, reason) :: block.elided }
    | none =>
      let group := ImportTable.topLevel name
      let block := style.blockFrom package group names
      { block with
        text := (if group = previous then [] else style.newline) ++
          style.policy.importStatement name ++ style.newline ++ block.text
        emitted := name :: block.emitted }

/-- The import block of a table in a file of the given package. -/
def block (style : ImportStyle) (table : ImportTable) (package : Option Text) : ImportBlock :=
  style.blockFrom package [] (table.ordered style.order)

end ImportStyle

end JvmSource
