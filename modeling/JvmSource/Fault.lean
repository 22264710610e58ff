import JvmSource.Charset.Basic
import JvmSource.OutputPath
import JvmSource.TypeRef.Parser

/-!
# Faults

What can go wrong before a file is written, with the message that names the culprit. Faults that
other systems report have no message of their own here.
-/

namespace JvmSource

/-- A cause of failure. -/
inductive Fault where
  /-- A text is no type reference. -/
  | invalidReference (text : Text)
  /-- No source file can be written to the path. -/
  | path (fault : PathFault)
  /-- The pattern of excluded types is no pattern. -/
  | invalidPattern (pattern : Text)
  | unsupportedCharset (name : Text)
  | unmappable (character : Char) (charset : Charset)
  /-- The text of a configuration is malformed or gives a key a value of the wrong type. -/
  | invalidConfig
  /-- The text of a script is malformed or describes no steps. -/
  | invalidScript
  /-- A file can be neither read nor written. -/
  | storage (path : Text)
  /-- A script cannot be read. -/
  | unreadable
deriving DecidableEq, Repr

/-- What is wrong with a path. -/
def PathFault.message : PathFault → Text
  | .missingName place => "Output path has no file name: ".toList ++ place
  | .unknownExtension found => "Unsupported source file extension: ".toList ++ found

/-- What a fault says. -/
def Fault.message? : Fault → Option Text
  | .invalidReference text => some ("Invalid type name: ".toList ++ text)
  | .path fault => some fault.message
  | .invalidPattern text =>
    some ("Invalid fully qualified types pattern '".toList ++ text ++ ['\''])
  | .unsupportedCharset name => some ("Unsupported encoding: ".toList ++ name)
  | .unmappable c charset =>
    some ("Character ".toList ++ Text.quoteChar c ++ " cannot be encoded as ".toList ++
      charset.name)
  | .invalidConfig => some "Invalid writer configuration".toList
  | .invalidScript => none
  | .storage place => some ("IO error on ".toList ++ place)
  | .unreadable => none

/-- A fault with what was being attempted, the widest attempt first. -/
structure Failure where
  attempts : List Text
  fault : Fault
deriving DecidableEq, Repr

namespace Failure

/-- Everything that is known about a failure, the widest attempt first. -/
def lines (failure : Failure) : List Text := failure.attempts ++ failure.fault.message?.toList

/-- A failure on one line. -/
def message (failure : Failure) : Text := [':', ' '].intercalate failure.lines

/-- Names an attempt that a failure has thwarted. -/
def during (attempt : Text) (failure : Failure) : Failure :=
  { failure with attempts := attempt :: failure.attempts }

end Failure

/-- A failure of which nothing but its cause is known. -/
def Fault.failure (fault : Fault) : Failure := ⟨[], fault⟩

/-- Reads a type reference. -/
def TypeRef.parse (text : Text) : Except Fault TypeRef :=
  match parse? text with
  | some type => .ok type
  | none => .error (.invalidReference text)

namespace TypeRef

variable {text : Text}

theorem parse_eq_ok_iff {type : TypeRef} : parse text = .ok type ↔ parse? text = some type := by
  unfold parse
  cases parse? text <;> simp

/-- A failure names the text. -/
theorem parse_eq_error_iff {fault : Fault} :
    parse text = .error fault ↔ parse? text = none ∧ fault = .invalidReference text := by
  unfold parse
  cases parse? text <;> simp [eq_comm]

end TypeRef

end JvmSource
