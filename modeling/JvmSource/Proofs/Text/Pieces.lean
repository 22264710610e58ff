import Mathlib.Data.List.Infix
import Mathlib.Tactic.Common
import JvmSource.Proofs.Text.Split

/-!
# Text in pieces

A text that is put together from pieces is split into lines of pieces. The pieces of the lines are
parts of the pieces of the text, and the lines are those that the whole text is split into.
-/

namespace JvmSource.Text

variable {α : Type} {separator : Char} {text piece : Text} {pieces line : List Text}

/-- Continues the last of some lines with the first of others. -/
def joinEnds : List (List α) → List (List α) → List (List α)
  | [], later => later
  | line :: next :: lines, later => line :: joinEnds (next :: lines) later
  | [last], [] => [last]
  | [last], first :: later => (last ++ first) :: later

/-- The lines of a text that is given in pieces, each in its own pieces. -/
def splitPieces (separator : Char) : List Text → List (List Text)
  | [] => [[]]
  | piece :: pieces => joinEnds ((split separator piece).map ([·])) (splitPieces separator pieces)

theorem joinEnds_cons {first : List α} {lines : List (List α)} (h : lines ≠ [])
    (later : List (List α)) : joinEnds (first :: lines) later = first :: joinEnds lines later := by
  cases lines with
  | nil => exact absurd rfl h
  | cons next lines => cases later <;> rfl

/-- The lines before the ends that meet stay as they are. -/
theorem joinEnds_concat (front : List (List α)) (last first : List α) (later : List (List α)) :
    joinEnds (front ++ [last]) (first :: later) = front ++ (last ++ first) :: later := by
  induction front with
  | nil => rfl
  | cons line front ih => rw [List.cons_append, joinEnds_cons (by simp), ih, List.cons_append]

/-- Lines that are ended first are followed by the others as they are. -/
theorem joinEnds_ended {lines : List (List α)} (h : lines ≠ []) (later : List (List α)) :
    joinEnds lines ([] :: later) = lines ++ later := by
  rw [← List.dropLast_append_getLast h, joinEnds_concat]
  simp

theorem nil_joinEnds {lines : List (List α)} (h : lines ≠ []) : joinEnds [[]] lines = lines := by
  obtain ⟨first, rest, rfl⟩ := List.exists_cons_of_ne_nil h
  rfl

theorem joinEnds_ne_nil {lines : List (List α)} (h : lines ≠ []) (later : List (List α)) :
    joinEnds lines later ≠ [] := by
  obtain ⟨line, lines, rfl⟩ := List.exists_cons_of_ne_nil h
  cases lines <;> cases later <;> simp [joinEnds]

/-- Lines may be continued in any order. -/
theorem joinEnds_assoc {lines middle : List (List α)} (hlines : lines ≠ []) (hmiddle : middle ≠ [])
    (later : List (List α)) :
    joinEnds (joinEnds lines middle) later = joinEnds lines (joinEnds middle later) := by
  induction lines with
  | nil => exact absurd rfl hlines
  | cons line lines ih =>
    by_cases hne : lines = []
    · obtain ⟨first, rest, rfl⟩ := List.exists_cons_of_ne_nil hmiddle
      subst hne
      show joinEnds ((line ++ first) :: rest) later = _
      by_cases hrest : rest = []
      · subst hrest
        cases later <;> simp [joinEnds]
      · rw [joinEnds_cons hrest, joinEnds_cons hrest]
        rfl
    · rw [joinEnds_cons hne, joinEnds_cons (joinEnds_ne_nil hne middle), ih hne, joinEnds_cons hne]

/-- Two texts in a row are split into the pieces of both, with the piece between them continued. -/
theorem split_append (separator : Char) (first second : Text) :
    split separator (first ++ second) =
      joinEnds (split separator first) (split separator second) := by
  induction first with
  | nil =>
    cases h : split separator second with
    | nil => exact absurd h (split_ne_nil separator second)
    | cons piece pieces => simp [split, h, joinEnds]
  | cons c first ih =>
    obtain ⟨piece, pieces, hpieces⟩ := List.exists_cons_of_ne_nil (split_ne_nil separator first)
    rw [List.cons_append, split, split, ih]
    by_cases hc : c = separator
    · rw [if_pos hc, if_pos hc, joinEnds_cons (split_ne_nil separator first)]
    · rw [if_neg hc, if_neg hc, hpieces]
      -- the first line is the longer by the character, whether or not it is the last one
      cases pieces with
      | nil => cases split separator second <;> rfl
      | cons next pieces =>
        have hne : next :: pieces ≠ [] := List.cons_ne_nil next pieces
        rw [joinEnds_cons hne, joinEnds_cons hne]

/-- Continuing lines goes along with flattening each of them. -/
theorem map_flatten_joinEnds (lines later : List (List Text)) :
    (joinEnds lines later).map List.flatten =
      joinEnds (lines.map List.flatten) (later.map List.flatten) := by
  induction lines with
  | nil => rfl
  | cons line lines ih =>
    cases lines with
    | nil => cases later <;> simp [joinEnds]
    | cons next lines =>
      have hne : (next :: lines).map List.flatten ≠ [] := by simp
      rw [joinEnds_cons (List.cons_ne_nil next lines), List.map_cons, ih,
        @List.map_cons _ _ List.flatten line, joinEnds_cons hne]

/-- Put together, the lines are those of the whole text. -/
theorem map_flatten_splitPieces (separator : Char) (pieces : List Text) :
    (splitPieces separator pieces).map List.flatten = split separator pieces.flatten := by
  induction pieces with
  | nil => rfl
  | cons piece pieces ih =>
    have hsame : ((split separator piece).map ([·])).map List.flatten = split separator piece := by
      simp [Function.comp_def]
    rw [splitPieces, map_flatten_joinEnds, hsame, ih, List.flatten_cons, split_append]

/-- What comes after a separator is split by itself. -/
theorem split_append_separator (separator : Char) (first rest : Text) :
    split separator (first ++ separator :: rest) = split separator first ++ split separator rest := by
  rw [split_append, split, if_pos rfl, joinEnds_ended (split_ne_nil separator first)]

theorem joinEnds_nil {lines : List (List α)} (h : lines ≠ []) : joinEnds lines [[]] = lines := by
  induction lines with
  | nil => exact absurd rfl h
  | cons line lines ih =>
    by_cases hlines : lines = []
    · rw [hlines, joinEnds, List.append_nil]
    · rw [joinEnds_cons hlines, ih hlines]

/-- A text in one piece has its lines in one piece each. -/
theorem mem_splitPieces_singleton (h : line ∈ splitPieces separator [text]) :
    ∃ piece, line = [piece] := by
  have hne : (split separator text).map ([·]) ≠ [] := by simp [split_ne_nil]
  rw [splitPieces, splitPieces, joinEnds_nil hne] at h
  obtain ⟨piece, -, hline⟩ := List.mem_map.mp h
  exact ⟨piece, hline.symm⟩

/-- What stands in a continued line stands in a line of one of the two parts. -/
theorem mem_joinEnds {lines later : List (List α)} {line : List α} {x : α}
    (h : line ∈ joinEnds lines later) (hx : x ∈ line) :
    (∃ line ∈ lines, x ∈ line) ∨ ∃ line ∈ later, x ∈ line := by
  induction lines with
  | nil => exact Or.inr ⟨line, h, hx⟩
  | cons first lines ih =>
    cases lines with
    | nil =>
      cases later with
      | nil => exact Or.inl ⟨line, h, hx⟩
      | cons next later =>
        rcases List.mem_cons.mp h with rfl | h
        · rcases List.mem_append.mp hx with hx | hx
          · exact Or.inl ⟨first, by simp, hx⟩
          · exact Or.inr ⟨next, by simp, hx⟩
        · exact Or.inr ⟨line, List.mem_cons_of_mem _ h, hx⟩
    | cons next lines =>
      rw [joinEnds_cons (by simp)] at h
      rcases List.mem_cons.mp h with rfl | h
      · exact Or.inl ⟨line, by simp, hx⟩
      · rcases ih h with ⟨found, hfound, hx⟩ | hlater
        · exact Or.inl ⟨found, List.mem_cons_of_mem _ hfound, hx⟩
        · exact Or.inr hlater

/-- The first piece is a prefix of the text. -/
theorem prefix_of_split (h : split separator text = piece :: pieces) : piece <+: text := by
  induction text generalizing piece pieces with
  | nil =>
    have hpiece : [] = piece := (List.cons.inj h).1
    rw [← hpiece]
  | cons c rest ih =>
    obtain ⟨first, others, hothers⟩ := List.exists_cons_of_ne_nil (split_ne_nil separator rest)
    rw [split] at h
    split at h
    · rw [← (List.cons.inj h).1]
      exact List.nil_prefix
    · rw [hothers] at h
      rw [← (List.cons.inj h).1]
      exact List.cons_prefix_cons.mpr ⟨rfl, ih hothers⟩

/-- Every piece is a part of the text. -/
theorem infix_of_mem_split (h : piece ∈ split separator text) : piece <:+: text := by
  induction text generalizing piece with
  | nil =>
    have hpiece : piece = [] := by simpa [split] using h
    rw [hpiece]
  | cons c rest ih =>
    obtain ⟨first, others, hothers⟩ :=
      List.exists_cons_of_ne_nil (split_ne_nil separator (c :: rest))
    rw [hothers] at h
    rcases List.mem_cons.mp h with rfl | h
    · exact (prefix_of_split hothers).isInfix
    · -- all pieces but the first are those of the rest
      have hrest : piece ∈ split separator rest := by
        rw [split] at hothers
        split at hothers
        · rw [(List.cons.inj hothers).2]
          exact h
        · split at hothers
          · next hnil => exact absurd hnil (split_ne_nil separator rest)
          · next front back hsplit =>
            rw [hsplit, (List.cons.inj hothers).2]
            exact List.mem_cons_of_mem _ h
      exact List.infix_cons (ih hrest)

/-- The pieces of the lines are parts of the pieces of the text. -/
theorem infix_of_mem_splitPieces (h : line ∈ splitPieces separator pieces) (hpiece : piece ∈ line) :
    ∃ whole ∈ pieces, piece <:+: whole := by
  induction pieces generalizing line with
  | nil =>
    have hline : line = [] := by simpa [splitPieces] using h
    rw [hline] at hpiece
    exact absurd hpiece (by simp)
  | cons whole pieces ih =>
    rcases mem_joinEnds h hpiece with ⟨cut, hcut, hmem⟩ | ⟨later, hlater, hmem⟩
    · obtain ⟨part, hpart, rfl⟩ := List.mem_map.mp hcut
      obtain rfl := List.mem_singleton.mp hmem
      exact ⟨whole, by simp, infix_of_mem_split hpart⟩
    · obtain ⟨found, hfound, hlies⟩ := ih hlater hmem
      exact ⟨found, List.mem_cons_of_mem _ hfound, hlies⟩

end JvmSource.Text
