import JvmSource.Import.Block
import JvmSource.Layout.Document
import JvmSource.PackageLine
import JvmSource.SourceHash
import JvmSource.Text.Digits

/-!
# Filling in a document

When a document is complete, its marks are filled in. Both fillings depend on the text without marks
only: the package that it declares decides about the imports, and its hash code is the serial
version.
-/

namespace JvmSource

/-- A document with its marks filled in. -/
structure FilledDocument where
  text : Text
  imports : ImportBlock
  /-- The package that the document declares. -/
  package : Option Text
  /-- The serial version, if the document has a mark for it. -/
  serial : Option Int32

/-- Fills in the marks of a document. -/
def ImportStyle.fill (style : ImportStyle) (document : Document) (table : ImportTable) :
    FilledDocument :=
  let body := document.text
  let package := declaredPackage? body
  let imports := style.block table package
  let serial := hashCode body
  let filling : Mark → Text
    | .imports => imports.text
    | .serial => Text.decimal serial.toInt
  { text := document.render filling
    imports := imports
    package := package
    serial := if document.has .serial then some serial else none }

end JvmSource
