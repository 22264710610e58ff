import JvmSource.Writer.Basic

/-!
# Calls as data

A source file is the result of a sequence of calls, so a run of a writer can be written down,
repeated and compared with another one.
-/

namespace JvmSource

/-- One call to a writer. -/
inductive Call where
  | print (template : Text) (args : List Arg)
  | println (template : Text) (args : List Arg)
  | newline
  | reference (type : Text) (keep : Nat)
  | references (types : List Text) (keep : Nat)
  | printClass (type : Text)
  | docComment (text : Text) (args : List Arg)
  | header (text : Text) (args : List Arg)
  | override (wanted : Bool)
  | overrideInherited (wanted : Bool)
  | serial
  | package (name : Text)
  | imports

namespace Writer

/-- Performs a call. Calls that resolve references answer with their texts. -/
def perform (writer : Writer) : Call → List Text × Writer
  | .print template args => ([], writer.print template args)
  | .println template args => ([], writer.println template args)
  | .newline => ([], writer.newline)
  | .reference type keep =>
    let (text, writer) := writer.reference type keep
    ([text], writer)
  | .references types keep => writer.references types keep
  | .printClass type => ([], writer.printClass type)
  | .docComment text args => ([], writer.docComment text args)
  | .header text args => ([], writer.header text args)
  | .override wanted => ([], writer.override wanted)
  | .overrideInherited wanted => ([], writer.overrideInherited wanted)
  | .serial => ([], writer.serial)
  | .package name => ([], writer.package name)
  | .imports => ([], writer.imports)

/-- Performs calls in order, and collects their answers. -/
def run (writer : Writer) : List Call → List (List Text) × Writer
  | [] => ([], writer)
  | call :: calls =>
    let (answer, writer) := writer.perform call
    let (answers, writer) := writer.run calls
    (answer :: answers, writer)

end Writer

end JvmSource
