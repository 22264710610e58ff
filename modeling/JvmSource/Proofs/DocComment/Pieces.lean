import Mathlib.Tactic.Common
import JvmSource.Proofs.DocComment.Clean
import JvmSource.Proofs.Template

/-!
# Pieces of documentation comments

The template of a documentation comment is escaped, and so is every text in its arguments, before
the arguments are put in. Each piece of the comment is clean therefore.
-/

namespace JvmSource.DocComment

variable {text template piece : Text} {args : List Arg}

/-- A single character is no comment delimiter. -/
theorem clean_singleton (c : Char) : Clean [c] := by
  rintro pair hspelled hlies
  obtain @⟨first, second, left, right, hleft, hright, -⟩ := hspelled
  obtain ⟨start, inside, rfl, -⟩ := exists_cons_of_spelling hleft
  obtain ⟨start', inside', rfl, -⟩ := exists_cons_of_spelling hright
  have hlength := hlies.length_le
  simp only [List.length_append, List.length_cons, List.length_nil] at hlength
  omega

theorem clean_nil : Clean [] := clean_of_forall (by simp)

/-! ## Arguments -/

theorem clean_decimal (value : Int) : Clean (Text.decimal value) := by
  apply clean_of_forall
  intro c hc
  rw [Text.decimal, List.mem_append] at hc
  rcases hc with hc | hc
  · split at hc
    · rw [List.mem_singleton.mp hc]
      rfl
    · exact absurd hc (by simp)
  · have hdigit : c.isDigit = true := Nat.isDigit_of_mem_toDigits (by omega) (by omega) hc
    rw [Bool.eq_false_iff]
    intro hstart
    simp only [isStart, Bool.or_eq_true, beq_iff_eq] at hstart
    rcases hstart with (rfl | rfl) | rfl <;> exact absurd hdigit (by decide)

mutual

/-- The text of an escaped argument is clean. -/
theorem clean_display : (arg : Arg) → Clean (escapeArg arg).display
  | .text value => by
    rw [escapeArg, Arg.display]
    exact clean_escape value
  | .int value => by
    rw [escapeArg, Arg.display]
    exact clean_decimal value
  | .bool value => by
    rw [escapeArg]
    have hletters : (Arg.bool value).display.all (fun c => !isStart c) = true := by
      cases value <;> decide
    apply clean_of_forall
    intro c hc
    simpa using List.all_eq_true.mp hletters c hc
  | .list items => by
    rw [escapeArg, Arg.display]
    exact clean_displayAll items

theorem clean_displayAll : (items : List Arg) → Clean (Arg.displayAll (escapeArgs items))
  | [] => by
    rw [escapeArgs, Arg.displayAll]
    exact clean_nil
  | [item] => by
    rw [escapeArgs, escapeArgs, Arg.displayAll]
    exact clean_display item
  | item :: next :: items => by
    rw [escapeArgs, escapeArgs, Arg.displayAll, ← escapeArgs]
    · have hrest : Clean (' ' :: Arg.displayAll (escapeArgs (next :: items))) :=
        clean_nil.append_cons (by decide) (clean_displayAll (next :: items))
      exact (clean_display item).append_cons (by decide) hrest
    · simp

end

/-- As a compiler sees it, neither an escaped text nor the text of an escaped argument opens or
closes a comment, however deep the lists in the argument are nested. -/
theorem escaped_contained (text : Text) (arg : Arg) :
    Contained (escape text) ∧ Contained (escapeArg arg).display :=
  ⟨(clean_escape text).contained, (clean_display arg).contained⟩

theorem mem_escapeArgs {arg : Arg} (h : arg ∈ escapeArgs args) :
    ∃ item ∈ args, arg = escapeArg item := by
  induction args with
  | nil =>
    rw [escapeArgs] at h
    exact absurd h (by simp)
  | cons item items ih =>
    rw [escapeArgs] at h
    rcases List.mem_cons.mp h with rfl | h
    · exact ⟨item, by simp, rfl⟩
    · obtain ⟨found, hfound, harg⟩ := ih h
      exact ⟨found, List.mem_cons_of_mem _ hfound, harg⟩

/-! ## Templates -/

/-- A piece of a clean template is clean. -/
theorem Clean.of_keptIn (h : Clean template) (hkept : Template.KeptIn template piece) :
    Clean piece := by
  intro pair hpair hlies
  have hsign : '%' ∉ pair := not_mem_spelledPair hpair (by decide)
  exact h pair hpair (hkept.occurs pair hsign hlies)

theorem clean_of_mem_pieces (h : Clean template)
    (hpiece : piece ∈ Template.pieces template (escapeArgs args)) : Clean piece := by
  rcases Template.comesFrom_of_mem_pieces hpiece with ⟨arg, harg, rfl⟩ | ⟨rest, hrest, hkept⟩
  · obtain ⟨item, -, rfl⟩ := mem_escapeArgs harg
    exact clean_display item
  · exact (h.of_infix hrest.isInfix).of_keptIn hkept

/-- The template of a documentation comment, with the star that its first line starts with. -/
theorem clean_template (text : Text) : Clean (" * ".toList ++ escape text) := by
  have hstar : Clean [' ', '*'] := clean_nil.append_cons (by decide) (clean_singleton '*')
  show Clean ([' ', '*'] ++ ' ' :: escape text)
  exact hstar.append_cons (by decide) (clean_escape text)

end JvmSource.DocComment
