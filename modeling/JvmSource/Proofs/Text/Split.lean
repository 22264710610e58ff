import Mathlib.Tactic.Common
import JvmSource.Text.Basic

/-!
# Splitting and joining

`Text.split` is the splitting of the standard library. Dotted paths are split at the dots that join
them.
-/

namespace JvmSource.Text

variable {separator : Char} {text : Text}

theorem split_eq_splitOn (separator : Char) (text : Text) :
    split separator text = text.splitOn separator := by
  induction text with
  | nil => simp [split]
  | cons c rest ih =>
    rw [split, List.splitOn_cons_eq_if_modifyHead, ih]
    by_cases h : c = separator
    · simp [h]
    · obtain ⟨piece, pieces, hpieces⟩ :=
        List.exists_cons_of_ne_nil (List.splitOn_ne_nil separator rest)
      simp [h, hpieces]

/-- A text without the separator is one piece. -/
theorem split_of_not_mem (h : separator ∉ text) : split separator text = [text] := by
  rw [split_eq_splitOn, List.splitOn_eq_singleton h]

/-- The first piece ends at the first separator. -/
theorem split_append_cons (h : separator ∉ text) (rest : Text) :
    split separator (text ++ separator :: rest) = text :: split separator rest := by
  rw [split_eq_splitOn, List.splitOn_append_cons_self_of_not_mem h, split_eq_splitOn]

/-! ## Pieces at their places -/

/-- The pieces, each with a separator after it, are the text with a separator after it. -/
theorem flatMap_split (separator : Char) (text : Text) :
    (split separator text).flatMap (· ++ [separator]) = text ++ [separator] := by
  induction text with
  | nil => rfl
  | cons c rest ih =>
    rw [split]
    split
    · next hc => rw [List.flatMap_cons, ih, hc]; rfl
    · split
      · next hnil => exact absurd hnil (split_ne_nil separator rest)
      · next piece pieces hpieces =>
        have hrest : piece ++ [separator] ++ pieces.flatMap (· ++ [separator]) =
            rest ++ [separator] := by rw [← ih, hpieces, List.flatMap_cons]
        rw [List.flatMap_cons, List.cons_append, List.cons_append, hrest]
        rfl

/-- A stretch without separators, between separators or the ends of the text, is a piece. -/
theorem exists_split_of_bounded {front piece back : Text}
    (hfront : front = [] ∨ ∃ rest, front = rest ++ [separator]) (hpiece : separator ∉ piece)
    (hback : back = [] ∨ ∃ rest, back = separator :: rest) :
    ∃ before after, split separator (front ++ piece ++ back) = before ++ piece :: after ∧
      front = before.flatMap (· ++ [separator]) := by
  have hpieces : ∃ after, split separator (piece ++ back) = piece :: after := by
    rcases hback with rfl | ⟨rest, rfl⟩
    · exact ⟨[], by rw [List.append_nil, split_of_not_mem hpiece]⟩
    · exact ⟨_, split_append_cons hpiece rest⟩
  obtain ⟨after, hafter⟩ := hpieces
  rcases hfront with rfl | ⟨rest, rfl⟩
  · exact ⟨[], after, hafter, rfl⟩
  · refine ⟨split separator rest, after, ?_, (flatMap_split separator rest).symm⟩
    rw [← hafter, split_eq_splitOn, split_eq_splitOn, split_eq_splitOn,
      ← List.splitOn_append_cons_self]
    simp

/-- A piece stands between separators or the ends of the text. -/
theorem exists_bounded_of_split {before after : List Text} {piece : Text}
    (h : split separator text = before ++ piece :: after) :
    ∃ back, text = before.flatMap (· ++ [separator]) ++ piece ++ back ∧
      (back = [] ∨ ∃ rest, back = separator :: rest) := by
  have htext := flatMap_split separator text
  rw [h, List.flatMap_append, List.flatMap_cons] at htext
  rcases List.eq_nil_or_concat after with rfl | ⟨others, last, rfl⟩
  · have hsame : text ++ [separator] =
        before.flatMap (· ++ [separator]) ++ piece ++ [] ++ [separator] := by simp [← htext]
    exact ⟨[], List.append_cancel_right hsame, Or.inl rfl⟩
  · have hsame : text ++ [separator] = before.flatMap (· ++ [separator]) ++ piece ++
        separator :: (others.flatMap (· ++ [separator]) ++ last) ++ [separator] := by
      simp [← htext]
    exact ⟨_, List.append_cancel_right hsame, Or.inr ⟨_, rfl⟩⟩

/-- In front of a piece stands nothing or a separator. -/
theorem flatMap_bounded (before : List Text) :
    before.flatMap (· ++ [separator]) = [] ∨
      ∃ rest, before.flatMap (· ++ [separator]) = rest ++ [separator] := by
  rcases List.eq_nil_or_concat before with rfl | ⟨others, last, rfl⟩
  · exact Or.inl rfl
  · exact Or.inr ⟨others.flatMap (· ++ [separator]) ++ last, by simp⟩

/-! ## Dotted paths -/

theorem dotted_split (text : Text) : dotted (split '.' text) = text := by
  rw [dotted, split_eq_splitOn, List.intercalate_splitOn]

theorem split_dotted {names : List Text} (hne : names ≠ []) (h : ∀ name ∈ names, '.' ∉ name) :
    split '.' (dotted names) = names := by
  rw [dotted, split_eq_splitOn, List.splitOn_intercalate '.' h hne]

theorem dotted_cons {name : Text} {names : List Text} (h : names ≠ []) :
    dotted (name :: names) = name ++ '.' :: dotted names := by
  simp [dotted, List.intercalate_cons_of_ne_nil h]

/-- Each name but the first has a dot before it. -/
theorem dotted_cons_eq_append (first : Text) (others : List Text) :
    dotted (first :: others) = first ++ (others.map ('.' :: ·)).flatten := by
  induction others generalizing first with
  | nil => simp [dotted]
  | cons second others ih =>
    rw [dotted_cons (List.cons_ne_nil second others), ih]
    rfl

/-- Each name but the last has a dot after it. -/
theorem dotted_concat_eq_append (others : List Text) (last : Text) :
    dotted (others ++ [last]) = (others.map (· ++ ['.'])).flatten ++ last := by
  induction others with
  | nil => simp [dotted]
  | cons first others ih =>
    rw [List.cons_append, dotted_cons (List.append_ne_nil_of_right_ne_nil _ (by simp)), ih]
    simp

theorem dotted_concat {front : List Text} (h : front ≠ []) (name : Text) :
    dotted (front ++ [name]) = dotted front ++ '.' :: name := by
  induction front with
  | nil => exact absurd rfl h
  | cons first rest ih =>
    by_cases hrest : rest = []
    · subst hrest
      rw [List.cons_append, List.nil_append, dotted_cons (by simp)]
      simp [dotted]
    · rw [List.cons_append, dotted_cons (by simp), ih hrest, dotted_cons hrest, List.append_assoc]
      rfl

theorem dot_mem_dotted {names : List Text} (h : 1 < names.length) : '.' ∈ dotted names := by
  match names, h with
  | first :: second :: rest, _ =>
    rw [dotted_cons (List.cons_ne_nil second rest)]
    simp

/-- The characters of a dotted path are those of its names, and dots. -/
theorem mem_dotted {names : List Text} {c : Char} (h : c ∈ dotted names) :
    c = '.' ∨ ∃ name ∈ names, c ∈ name := by
  induction names with
  | nil => simp [dotted] at h
  | cons name names ih =>
    by_cases hne : names = []
    · subst hne
      exact Or.inr ⟨name, by simp, by simpa [dotted] using h⟩
    · rw [dotted_cons hne, List.mem_append, List.mem_cons] at h
      rcases h with h | rfl | h
      · exact Or.inr ⟨name, by simp, h⟩
      · exact Or.inl rfl
      · rcases ih h with h | ⟨other, hmem, h⟩
        · exact Or.inl h
        · exact Or.inr ⟨other, by simp [hmem], h⟩

end JvmSource.Text
