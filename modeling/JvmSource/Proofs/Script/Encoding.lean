import Mathlib.Data.List.Forall2
import Mathlib.Tactic.Common
import JvmSource.Proofs.Json.Grammar
import JvmSource.Script.Reader

/-!
# How scripts are written

A script can be written as JSON in many ways: the keys of an object come in any order, a field that
holds its default may be left out, and there may be keys that mean nothing, with any values that
leave the whole text within the depth that can be read. `room` is what is left of this depth.
-/

namespace JvmSource.Script

/-! ## Objects -/

/-- A field of an object. -/
structure Field where
  key : Text
  /-- Whether a value stands for what the field holds. -/
  Holds : Json → Prop
  /-- Whether the field may be left out. -/
  Optional : Prop

/-- Whether an object has the given fields, in any order and among others that mean nothing. -/
structure HasFields (fields : List Field) (room : Nat) (members : List (Text × Json)) : Prop where
  distinct : (members.map Prod.fst).Nodup
  written : ∀ field ∈ fields, (∃ value, (field.key, value) ∈ members ∧ field.Holds value) ∨
    field.Optional ∧ ∀ member ∈ members, member.1 ≠ field.key
  unknown : ∀ member ∈ members, (∀ field ∈ fields, member.1 ≠ field.key) → member.2.FitsIn room

namespace Field

def text (key : Text) (value : Text) : Field := ⟨key, (· = .string value), False⟩

/-- A text that may be left out if it is empty. -/
def textOrEmpty (key : Text) (value : Text) : Field := ⟨key, (· = .string value), value = []⟩

def boolOr (default : Bool) (key : Text) (value : Bool) : Field :=
  ⟨key, (· = .bool value), value = default⟩

def keep (key : Text) (value : UInt64) : Field := ⟨key, (· = .integer value.toNat), value = 1⟩

end Field

/-! ## Arguments -/

namespace Arg

mutual

/-- Whether a value stands for an argument. -/
def IsWritten : Arg → (room : Nat) → Json → Prop
  | .reference type keep, room, json =>
    ∃ members, json = .object members ∧
      HasFields [.text "type".toList type, .keep "keep".toList keep] (room - 1) members
  | .list items, room, json => ∃ values, json = .array values ∧ AreWritten items (room - 1) values
  | .bool value, _, json => json = .bool value
  | .int value, _, json => json = .integer value.toInt
  | .text value, _, json => json = .string value

/-- Whether values stand for arguments, one by one. -/
def AreWritten : List Arg → (room : Nat) → List Json → Prop
  | [], _, values => values = []
  | arg :: args, room, values =>
    ∃ value rest, values = value :: rest ∧ IsWritten arg room value ∧ AreWritten args room rest

end

/-- Whether at most so many lists lie inside one another. -/
def NestsIn : (depth : Nat) → Arg → Prop
  | 0, .list _ => False
  | depth + 1, .list items => ∀ item ∈ items, item.NestsIn depth
  | _, _ => True

end Arg

/-- A list of arguments that may be left out if it is empty. -/
def Field.args (key : Text) (args : List Arg) (room : Nat) : Field :=
  ⟨key, fun json => ∃ values, json = .array values ∧ Arg.AreWritten args (room - 1) values, args = []⟩

/-! ## Steps -/

namespace Step

/-- The kind of a step. -/
def kind : Step → Kind
  | package _ => .package
  | imports => .imports
  | serial => .serial
  | docComment _ _ => .docComment
  | header _ _ => .header
  | override _ _ => .override
  | println _ _ => .println
  | print _ _ => .print

/-- The arguments of a step. -/
def args : Step → List Arg
  | docComment _ args => args
  | header _ args => args
  | println _ args => args
  | print _ args => args
  | _ => []

/-- The fields of a step. -/
def fields (step : Step) (room : Nat) : List Field :=
  match step with
  | package name => [.text "name".toList name]
  | imports => []
  | serial => []
  | docComment text args | header text args | print text args =>
    [.text "text".toList text, .args "args".toList args room]
  | override wanted inherited =>
    [.boolOr true "when".toList wanted, .boolOr false "inherit".toList inherited]
  | println text args => [.textOrEmpty "text".toList text, .args "args".toList args room]

/-- Whether a value stands for a step. -/
def IsWritten (step : Step) (room : Nat) (json : Json) : Prop :=
  ∃ members, json = .object members ∧
    HasFields (.text "step".toList step.kind.name :: step.fields (room - 1)) (room - 1) members

end Step

/-- Whether a value stands for a script. -/
def IsWritten (script : Script) (json : Json) : Prop :=
  ∃ values, json = .array values ∧
    List.Forall₂ (fun step value => step.IsWritten (Json.maxDepth - 1) value) script values

end JvmSource.Script
