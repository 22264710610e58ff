import JvmSource.Config.Basic
import JvmSource.DocComment.Escape
import JvmSource.Import.Fill
import JvmSource.Layout.Basic
import JvmSource.Pattern.Meaning
import JvmSource.Resolver.Basic

/-!
# Writing a source file

A writer takes the calls that make up one source file. References are shortened as they are written,
and the import block is filled in when the file is complete.
-/

namespace JvmSource

/-- A pattern that matches a text from its start to its end. The pattern is put between anchors as
text, so its alternatives reach no further than its parentheses let them. -/
def Pattern.parseWhole? (pattern : Text) : Option Pattern :=
  parse? ("^(?:".toList ++ pattern ++ ")$".toList)

/-- The rules for the references of a file, with a pattern for the types that are never imported. -/
def Resolver.create (policy : Policy) : (excluded : Option Text) → Except Fault Resolver
  | none => .ok ⟨policy, none⟩
  | some pattern =>
    match Pattern.parseWhole? pattern with
    | some excluded => .ok ⟨policy, some excluded⟩
    | none => .error (.invalidPattern pattern)

/-- A source file in the making. -/
structure Writer where
  path : Text
  dialect : Dialect
  scope : Scope
  resolver : Resolver
  table : ImportTable
  order : ImportOrder
  layout : Layout
  docComments : Bool
  charset : Charset

/-- A complete source file. -/
structure SourceFile where
  path : Text
  dialect : Dialect
  content : FilledDocument
  table : ImportTable
  charset : Charset

namespace Writer

/-- Starts the file at a path. -/
def create (path : Text) (config : Config) (order : ImportOrder) : Except Fault Writer := do
  let (dialect, className) ← (Dialect.forPath path).mapError .path
  let resolver ← Resolver.create dialect.policy config.excluded
  let charset ← config.resolveCharset
  return {
    path := path
    dialect := dialect
    scope := ⟨className, none⟩
    resolver := resolver
    table := .empty
    order := order
    layout := {
      indent := config.indent.getD dialect.policy.indent
      newline := config.newline }
    docComments := config.docComments
    charset := charset }

/-! ## Text -/

/-- Changes the layout. -/
def layOut (writer : Writer) (f : Layout → Layout) : Writer :=
  { writer with layout := f writer.layout }

/-- Writes a template. -/
def print (writer : Writer) (template : Text) (args : List Arg) : Writer :=
  writer.layOut (·.print (Template.format template args))

/-- Writes a template and ends the line. -/
def println (writer : Writer) (template : Text) (args : List Arg) : Writer :=
  writer.layOut (·.println (Template.format template args))

/-- Ends the line. -/
def newline (writer : Writer) : Writer := writer.layOut Layout.endLine

/-! ## References -/

/-- Resolves a reference of which `keep` names are to be written. -/
def reference (writer : Writer) (type : Text) (keep : Nat) : Text × Writer :=
  let (text, table) := writer.resolver.resolve writer.scope writer.table type keep
  (text, { writer with table })

/-- Resolves several references. -/
def references (writer : Writer) (types : List Text) (keep : Nat) : List Text × Writer :=
  let (texts, table) := writer.resolver.resolveAll writer.scope keep types writer.table
  (texts, { writer with table })

/-- Writes a reference. -/
def printClass (writer : Writer) (type : Text) : Writer :=
  let (text, writer) := writer.reference type 1
  writer.layOut (·.print text)

/-! ## Set pieces -/

/-- Writes a documentation comment, or only ends the line if comments are not wanted. -/
def docComment (writer : Writer) (text : Text) (args : List Arg) : Writer :=
  let writer := writer.newline
  if writer.docComments then
    let comment := Template.format (" * ".toList ++ DocComment.escape text)
      (DocComment.escapeArgs args)
    writer.layOut fun layout =>
      ((layout.println "/**".toList).println comment).println " */".toList
  else writer

/-- The line above and below a header. -/
def rule : Text := '/' :: '/' :: ' ' :: List.replicate 73 '-'

/-- Writes a header comment. -/
def header (writer : Writer) (text : Text) (args : List Arg) : Writer :=
  let line := Template.format ("// ".toList ++ text) args
  writer.newline.layOut fun layout => ((layout.println rule).println line).println rule

/-- Writes an override annotation, if it is wanted. -/
def override (writer : Writer) (wanted : Bool) : Writer :=
  if wanted then writer.layOut (·.println "@Override".toList) else writer

/-- Ends the line and writes an override annotation, if it is wanted. -/
def overrideInherited (writer : Writer) (wanted : Bool) : Writer := writer.newline.override wanted

/-- Declares the serial version, if classes of the dialect have one. -/
def serial (writer : Writer) : Writer :=
  if writer.dialect.policy.serialVersion then
    writer.newline.layOut fun layout =>
      ((layout.print "private static final long serialVersionUID = ".toList).mark .serial).println
        [';']
  else writer

/-- Declares the package. -/
def package (writer : Writer) (name : Text) : Writer :=
  { writer with
    scope := { writer.scope with package := some name }
    layout := writer.layout.println (writer.dialect.policy.packageStatement name) }

/-- Reserves the place of the import block. -/
def imports (writer : Writer) : Writer := writer.layOut fun layout => (layout.mark .imports).endLine

/-! ## Completion -/

/-- What decides about the form of the import block. -/
def importStyle (writer : Writer) : ImportStyle where
  policy := writer.dialect.policy
  className := writer.scope.className
  order := writer.order
  newline := writer.layout.newline

/-- Completes the file. -/
def finish (writer : Writer) : SourceFile where
  path := writer.path
  dialect := writer.dialect
  content := writer.importStyle.fill writer.layout.finish writer.table
  table := writer.table
  charset := writer.charset

end Writer

end JvmSource
