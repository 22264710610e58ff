import Mathlib.Tactic.Common
import JvmSource.Proofs.TypeRef.RoundTrip

/-!
# Spacing

Reading drops the white space around arguments and printing puts one space after each comma, so a
reference is printed as it was written but for white space. Everything else is there again: cutting
takes out commas only, trimming white space only, and text that is kept is printed as it was.
-/

namespace JvmSource.TypeRef

/-! ## Reading -/

/-- An argument is there as it was, if its type is. -/
theorem dense_of_cutArg? {piece : Text} {arg : Cut × Bool} {type : TypeRef}
    (h : cutArg? piece = some arg) (htype : Text.dense type.print = Text.dense arg.1.text) :
    Text.dense (TypeArg.mk type arg.2).print = Text.dense piece := by
  obtain ⟨cut, nullable⟩ := arg
  obtain ⟨-, htrim⟩ := cutArg?_eq_some_iff.mp h
  calc Text.dense (TypeArg.mk type nullable).print
      = Text.dense type.print ++ Text.dense (question nullable) := by
        rw [TypeArg.print, Text.dense_append, question]
    _ = Text.dense (Text.trim piece) := by rw [htype, htrim, Text.dense_append]
    _ = Text.dense piece := Text.dense_trim piece

theorem dense_of_mapM_cutArg? {pieces : List Text} {args : List (Cut × Bool)} {read : Cut → TypeRef}
    (hread : ∀ cut, Text.dense (read cut).print = Text.dense cut.text)
    (h : pieces.mapM cutArg? = some args) :
    args.map (fun arg => Text.dense (TypeArg.mk (read arg.1) arg.2).print) =
      pieces.map Text.dense := by
  induction pieces generalizing args with
  | nil =>
    cases h
    rfl
  | cons piece pieces ih =>
    simp only [List.mapM_cons, bind, Option.bind_eq_some_iff] at h
    obtain ⟨arg, harg, args', hargs, heq⟩ := h
    cases heq
    rw [List.map_cons, List.map_cons, ih hargs, dense_of_cutArg? harg (hread arg.1)]

/-! ## Printing -/

/-- Printed arguments are joined by commas, white space apart. -/
theorem dense_printAll (args : List TypeArg) :
    Text.dense (TypeArg.printAll args) =
      [','].intercalate (args.map fun arg => Text.dense arg.print) := by
  induction args with
  | nil => rfl
  | cons arg args ih =>
    cases args with
    | nil => simp [TypeArg.printAll]
    | cons next args =>
      have hcomma : Text.dense [',', ' '] = [','] := by decide
      have hsplit : TypeArg.printAll (arg :: next :: args) =
          arg.print ++ ([',', ' '] ++ TypeArg.printAll (next :: args)) := printAll_cons_cons ..
      rw [hsplit, Text.dense_append, Text.dense_append, hcomma, ih]
      simp only [List.map_cons, List.intercalate_cons_cons, List.append_assoc]

theorem print_ofText (cut : Cut) : (mk cut.names (.ofText cut.suffix)).print = cut.text := by
  obtain ⟨names, suffix⟩ := cut
  cases suffix <;> rfl

/-- A reference prints as it was written, but for white space, however many rows of it are read. -/
theorem dense_print_descend (rows : Nat) (cut : Cut) :
    Text.dense (descend rows cut).print = Text.dense cut.text := by
  induction rows generalizing cut with
  | zero => rw [descend_of_unread (Or.inl rfl), print_ofText]
  | succ rows ih =>
    cases hargs : cutArgs? cut.suffix with
    | none => rw [descend_of_unread (Or.inr hargs), print_ofText]
    | some found =>
      obtain ⟨bracket, args⟩ := found
      obtain ⟨inner, pieces, hsuffix, hpieces, hmap⟩ := cutArgs?_eq_some_iff.mp hargs
      obtain ⟨-, -, -, -, -, hjoin⟩ := pieces_of_topLevelPieces? hpieces
      have hinner : Text.dense (TypeArg.printAll
          (args.map fun arg => .mk (descend rows arg.1) arg.2)) = Text.dense inner := by
        calc Text.dense (TypeArg.printAll (args.map fun arg => .mk (descend rows arg.1) arg.2))
            = [','].intercalate (pieces.map Text.dense) := by
              rw [dense_printAll, List.map_map, ← dense_of_mapM_cutArg? ih hmap]
              rfl
          _ = Text.dense inner := by
              rw [← Text.dense_intercalate, hjoin]
      -- both are the path and the brackets, with the arguments between them
      have hsplit : ∀ middle : Text, bracket.opening :: (middle ++ [bracket.closing]) =
          [bracket.opening] ++ middle ++ [bracket.closing] := fun middle => rfl
      rw [descend_of_cutArgs? hargs, print, Suffix.print, Cut.text, hsuffix, hsplit, hsplit]
      simp only [Text.dense_append, hinner]

/-- Reading undoes printing, and printing loses only white space, however deep the arguments are
nested; so what has been read and printed once is read and printed the same ever after. -/
theorem parse_print {text : Text} {type : TypeRef} (h : parse text = .ok type) :
    parse type.print = .ok type ∧ Text.dense type.print = Text.dense text ∧
      (parse type.print).map print = (parse text).map print := by
  have hcanonical := canonical_of_parse? (parse_eq_ok_iff.mp h)
  have hagain : parse type.print = .ok type := parse_eq_ok_iff.mpr (parse?_print hcanonical)
  refine ⟨hagain, ?_, by rw [hagain, h]⟩
  obtain ⟨cut, hcut, rfl⟩ := parse_eq_ok_iff_descend.mp h
  rw [dense_print_descend, (cut?_eq_some_iff.mp hcut).2]

/-- White space around arguments is dropped, and stays where text is kept. -/
theorem parse_print_map :
    let text := "java.util.Map< a.B ,c.D<? super  E>? >".toList
    ∃ type, parse text = .ok type ∧ type.print = "java.util.Map<a.B, c.D<? super  E>?>".toList ∧
      parse type.print = .ok type ∧ Text.dense type.print = Text.dense text ∧
      (parse type.print).map print = (parse text).map print := by
  intro text
  let map : TypeRef := .mk ["java".toList, "util".toList, "Map".toList] (.plain .angle
    [.mk (.mk ["a".toList, "B".toList] .empty) false,
      .mk (.mk ["c".toList, "D".toList] (.verbatim "<? super  E>".toList)) true])
  have hparse : parse text = .ok map := by
    rw [parse_eq_ok_iff, parse?_eq]
    rfl
  exact ⟨map, hparse, rfl, parse_print hparse⟩

end JvmSource.TypeRef
