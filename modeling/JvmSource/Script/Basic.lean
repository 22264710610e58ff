import JvmSource.Writer.Call

/-!
# Scripts

A script is the sequence of calls that makes up one source file, written down as data. The
arguments of a step may be references, which are resolved from left to right before the step is
performed.
-/

namespace JvmSource

namespace Script

/-- An argument of a step. -/
inductive Arg where
  /-- A reference of which `keep` names are to be written. -/
  | reference (type : Text) (keep : UInt64)
  | list (items : List Arg)
  | bool (value : Bool)
  | int (value : Int64)
  | text (text : Text)

/-- One call. -/
inductive Step where
  | package (name : Text)
  | imports
  | serial
  | docComment (text : Text) (args : List Arg)
  | header (text : Text) (args : List Arg)
  | override (wanted inherited : Bool)
  | println (text : Text) (args : List Arg)
  | print (text : Text) (args : List Arg)

end Script

/-- A sequence of calls. -/
abbrev Script := List Script.Step

namespace Writer

mutual

/-- Resolves the references in an argument. -/
def resolveArg (writer : Writer) : Script.Arg → Arg × Writer
  | .reference type keep =>
    let (text, writer) := writer.reference type keep.toNat
    (.text text, writer)
  | .list items =>
    let (items, writer) := writer.resolveArgs items
    (.list items, writer)
  | .bool value => (.bool value, writer)
  | .int value => (.int value.toInt, writer)
  | .text value => (.text value, writer)

/-- Resolves the references in several arguments, one after the other. -/
def resolveArgs (writer : Writer) : List Script.Arg → List Arg × Writer
  | [] => ([], writer)
  | arg :: args =>
    let (arg, writer) := writer.resolveArg arg
    let (args, writer) := writer.resolveArgs args
    (arg :: args, writer)

end

end Writer

/-- Performs a step. -/
def Script.Step.perform (writer : Writer) : Step → Writer
  | .package name => writer.package name
  | .imports => writer.imports
  | .serial => writer.serial
  | .docComment text args =>
    let (args, writer) := writer.resolveArgs args
    writer.docComment text args
  | .header text args =>
    let (args, writer) := writer.resolveArgs args
    writer.header text args
  | .override wanted inherited =>
    if inherited then writer.overrideInherited wanted else writer.override wanted
  | .println text args =>
    let (args, writer) := writer.resolveArgs args
    writer.println text args
  | .print text args =>
    let (args, writer) := writer.resolveArgs args
    writer.print text args

/-- Performs all steps of a script. -/
def Script.perform (script : Script) (writer : Writer) : Writer :=
  script.foldl Step.perform writer

end JvmSource
