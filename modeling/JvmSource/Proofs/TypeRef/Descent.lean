import Mathlib.Tactic.Common
import JvmSource.Fault
import JvmSource.TypeRef.Parser

/-!
# Reading by descent

References are read row by row, and the rows are put together from the deepest up. The reference
that comes out is the one that is read by going down into each argument in turn: `parse?_eq` says so
for every text. Each row hands exactly its own arguments to the row above, in order, so none is lost
or given to another reference.
-/

namespace JvmSource.TypeRef

/-- The reference that a cut stands for, read argument by argument down to a number of rows. -/
def descend : (rows : Nat) → Cut → TypeRef
  | 0, cut => .mk cut.names (.ofText cut.suffix)
  | rows + 1, cut =>
    match cutArgs? cut.suffix with
    | none => .mk cut.names (.ofText cut.suffix)
    | some (bracket, args) =>
      .mk cut.names (.plain bracket (args.map fun arg => .mk (descend rows arg.1) arg.2))

theorem names_descend (rows : Nat) (cut : Cut) : (descend rows cut).names = cut.names := by
  cases rows with
  | zero => rfl
  | succ rows =>
    rw [descend]
    cases cutArgs? cut.suffix <;> rfl

/-- The arguments that a reference of a row has in the row below. -/
def cutsBelow : Cut × Option (Bracket × List (Cut × Bool)) → List Cut
  | (_, some (_, args)) => args.map Prod.fst
  | (_, none) => []

theorem readRow_succ (rows : Nat) (row : List Cut) :
    readRow (rows + 1) row =
      assemble (row.map fun cut => (cut, cutArgs? cut.suffix))
        (readRow rows ((row.map fun cut => (cut, cutArgs? cut.suffix)).flatMap cutsBelow)) := by
  cases row with
  | nil => simp [readRow, assemble]
  | cons cut row => rfl

theorem zipWith_map_fst (f : Cut → TypeRef) (args : List (Cut × Bool)) :
    ((args.map Prod.fst).map f).zipWith (fun type arg => TypeArg.mk type arg.2) args =
      args.map fun arg => TypeArg.mk (f arg.1) arg.2 := by
  induction args with
  | nil => rfl
  | cons arg args ih => simp [← ih]

/-- A row gets back the references that were read for its own arguments. -/
theorem assemble_map (f : Cut → TypeRef) (row : List Cut) :
    assemble (row.map fun cut => (cut, cutArgs? cut.suffix))
        (((row.map fun cut => (cut, cutArgs? cut.suffix)).flatMap cutsBelow).map f) =
      row.map fun cut =>
        match cutArgs? cut.suffix with
        | none => .mk cut.names (.ofText cut.suffix)
        | some (bracket, args) =>
          .mk cut.names (.plain bracket (args.map fun arg => .mk (f arg.1) arg.2)) := by
  induction row with
  | nil => rfl
  | cons cut row ih =>
    simp only [List.map_cons, List.flatMap_cons, List.map_append]
    cases hargs : cutArgs? cut.suffix with
    | none => simp only [cutsBelow, assemble, List.map_nil, List.nil_append, ih]
    | some found =>
      obtain ⟨bracket, args⟩ := found
      have hlength : ((args.map Prod.fst).map f).length = args.length := by simp
      simp only [cutsBelow, assemble]
      rw [List.take_left' hlength, List.drop_left' hlength, zipWith_map_fst, ih]

theorem readRow_eq_map (rows : Nat) (row : List Cut) :
    readRow rows row = row.map (descend rows) := by
  induction rows generalizing row with
  | zero =>
    cases row with
    | nil => rfl
    | cons cut row => rfl
  | succ rows ih =>
    rw [readRow_succ, ih, assemble_map]
    rfl

/-- Reading a text row by row gives what descending gives. -/
theorem parse?_eq (text : Text) : parse? text = (cut? text).map (descend maxDepth) := by
  unfold parse?
  cases cut? text with
  | none => rfl
  | some cut => simp [readRow_eq_map]

/-- Reading fails only if the text cannot be cut. -/
theorem parse_eq_ok_iff_descend {text : Text} {type : TypeRef} :
    parse text = .ok type ↔ ∃ cut, cut? text = some cut ∧ descend maxDepth cut = type := by
  rw [parse_eq_ok_iff, parse?_eq, Option.map_eq_some_iff]

end JvmSource.TypeRef
