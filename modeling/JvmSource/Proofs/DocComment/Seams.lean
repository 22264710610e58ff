import Mathlib.Data.List.Infix
import Mathlib.Tactic.Common
import JvmSource.Proofs.DocComment.Clean
import JvmSource.Proofs.Text.Trim

/-!
# Seams of clean texts

A text that is put together from clean pieces is contained exactly when no comment delimiter is
spelled across a seam (`contained_flatten_iff`). Characters that occur in no spelling, such as white
space, separate what stands on both sides of them.
-/

namespace JvmSource.DocComment

variable {text rest left right before pair after : Text} {c : Char}

/-! ## Separating characters -/

/-- A character apart from all spellings ends the count of backslashes. -/
theorem oddAfter_append_cons (hc : IsApart c) (left right : Text) :
    oddAfter false (left ++ c :: right) = oddAfter false right := by
  have hslash : (c == '\\') = false := by
    have hstart := hc.1
    simp only [isStart, Bool.or_eq_false_iff] at hstart
    exact hstart.2
  rw [oddAfter_append, oddAfter_cons, hslash]
  rfl

/-- What occurs in a text occurs with more text after it. -/
theorem Occurs.append (h : Occurs left before pair after) (right : Text) :
    Occurs (left ++ right) before pair (after ++ right) where
  split := by
    rw [h.split]
    simp
  spelled := h.spelled
  active := h.active

/-- What occurs in a text occurs after a character apart from all spellings. -/
theorem Occurs.append_cons (hc : IsApart c) (h : Occurs right before pair after) (left : Text) :
    Occurs (left ++ c :: right) (left ++ c :: before) pair after where
  split := by
    rw [h.split]
    simp
  spelled := h.spelled
  active hhead := by
    rw [oddAfter_append_cons hc]
    exact h.active hhead

/-- No pair reaches over a character apart from all spellings. -/
theorem Occurs.of_append_cons (hc : IsApart c) (h : Occurs (left ++ c :: right) before pair after) :
    (∃ after, Occurs left before pair after) ∨ ∃ before, Occurs right before pair after := by
  rcases append_cons_cases h.split h.spelled hc with ⟨past, hleft⟩ | ⟨past, hbefore, hright⟩
  · exact Or.inl ⟨past, hleft, h.spelled, h.active⟩
  · refine Or.inr ⟨past, hright, h.spelled, fun hhead => ?_⟩
    rw [← oddAfter_append_cons hc left, ← hbefore]
    exact h.active hhead

/-- A text that is divided by a separating character is contained if both parts are. -/
theorem contained_append_cons (hc : IsApart c) :
    Contained (left ++ c :: right) ↔ Contained left ∧ Contained right := by
  simp only [contained_iff]
  constructor
  · intro h
    refine ⟨fun before pair after hoccurs => ?_, fun before pair after hoccurs => ?_⟩
    · exact h before pair _ (hoccurs.append (c :: right))
    · exact h _ pair after (hoccurs.append_cons hc left)
  · rintro ⟨hleft, hright⟩ before pair after hoccurs
    rcases hoccurs.of_append_cons hc with ⟨after, hoccurs⟩ | ⟨before, hoccurs⟩
    · exact hleft before pair after hoccurs
    · exact hright before pair after hoccurs

/-- White space stands in no spelling. -/
theorem isApart_of_isBlank (h : Unicode.isBlank c = true) : IsApart c := by
  constructor
  · rw [Bool.eq_false_iff]
    intro hstart
    simp only [isStart, Bool.or_eq_true, beq_iff_eq] at hstart
    rcases hstart with (rfl | rfl) | rfl <;> exact absurd h (by decide)
  · rw [Bool.eq_false_iff]
    intro hinside
    simp only [isInside, Bool.or_eq_true, beq_iff_eq] at hinside
    rcases hinside with (((((rfl | rfl) | rfl) | rfl) | rfl) | rfl) | rfl <;>
      exact absurd h (by decide)

/-- White space at the end makes no difference. -/
theorem contained_append_blanks (h : ∀ c ∈ rest, Unicode.isBlank c = true) :
    Contained (text ++ rest) ↔ Contained text := by
  induction rest generalizing text with
  | nil => rw [List.append_nil]
  | cons c rest ih =>
    have hrest : ∀ c ∈ rest, Unicode.isBlank c = true := fun d hd => h d (List.mem_cons_of_mem c hd)
    have hnil : Contained rest ↔ Contained [] := by simpa using @ih [] hrest
    rw [contained_append_cons (isApart_of_isBlank (h c (List.mem_cons_self ..))), hnil]
    exact and_iff_left (by decide)

/-! ## Seams -/

/-- Whether a comment delimiter is spelled across the seam of two texts, and is decoded there. -/
def SpelledAcross (left right : Text) : Prop :=
  ∃ before pair after, Occurs (left ++ right) before pair after ∧ before.length < left.length ∧
    left.length < before.length + pair.length

theorem not_spelledAcross_nil (left : Text) : ¬ SpelledAcross left [] := by
  rintro ⟨before, pair, after, hoccurs, -, hhigh⟩
  have hlength := congrArg List.length hoccurs.split
  simp only [List.length_append, List.length_nil] at hlength
  omega

/-- Nothing is spelled across the end of a text whose characters occur in no spelling. -/
theorem not_spelledAcross_of_forall (h : ∀ c ∈ left, IsApart c) (right : Text) :
    ¬ SpelledAcross left right := by
  rintro ⟨before, pair, after, hoccurs, hlow, -⟩
  obtain ⟨first, others, rfl, hfirst⟩ := exists_cons_of_spelledPair hoccurs.spelled
  have hsplit : left ++ right = (before ++ [first]) ++ (others ++ after) := by
    rw [hoccurs.split, List.append_assoc]
    rfl
  have hbegins : before ++ [first] <+: left := by
    apply List.prefix_of_prefix_length_le (hsplit ▸ List.prefix_append _ _)
      (List.prefix_append _ right)
    rw [List.length_append, List.length_singleton]
    omega
  have hmem : first ∈ left := hbegins.subset (by simp)
  rw [(h first hmem).1] at hfirst
  exact absurd hfirst (by simp)

/-- What occurs in a text that is put together occurs in one of its pieces, or across a seam. -/
theorem exists_seam {pieces : List Text} (hpair : pair ≠ [])
    (h : pieces.flatten = before ++ (pair ++ after)) :
    (∃ piece ∈ pieces, pair <:+: piece) ∨
      ∃ front back, pieces = front ++ back ∧ before.length < front.flatten.length ∧
        front.flatten.length < before.length + pair.length := by
  induction pieces generalizing before with
  | nil =>
    have hlength := congrArg List.length h
    have hpos : 0 < pair.length := List.length_pos_iff.mpr hpair
    simp only [List.flatten_nil, List.length_nil, List.length_append] at hlength
    omega
  | cons first pieces ih =>
    rw [List.flatten_cons] at h
    have hfirst : first <+: before ++ (pair ++ after) := h ▸ List.prefix_append first pieces.flatten
    have hbefore : before <+: before ++ (pair ++ after) := List.prefix_append _ _
    by_cases hbehind : first.length ≤ before.length
    · obtain ⟨past, rfl⟩ := List.prefix_of_prefix_length_le hfirst hbefore hbehind
      rw [List.append_assoc] at h
      rcases ih (List.append_cancel_left h) with
        ⟨piece, hpiece, hlies⟩ | ⟨front, back, rfl, hlow, hhigh⟩
      · exact Or.inl ⟨piece, List.mem_cons_of_mem first hpiece, hlies⟩
      · refine Or.inr ⟨first :: front, back, rfl, ?_, ?_⟩
        · rw [List.flatten_cons, List.length_append, List.length_append]
          omega
        · rw [List.flatten_cons, List.length_append, List.length_append]
          omega
    · by_cases hover : first.length < before.length + pair.length
      · refine Or.inr ⟨[first], pieces, rfl, ?_, ?_⟩
        · rw [List.flatten_singleton]
          omega
        · rw [List.flatten_singleton]
          exact hover
      · -- the pair lies within the first piece
        have hwithin : before ++ pair <+: before ++ (pair ++ after) := by
          rw [← List.append_assoc]
          exact List.prefix_append _ after
        have hlength : (before ++ pair).length ≤ first.length := by
          rw [List.length_append]
          omega
        have hbegins : before ++ pair <+: first :=
          List.prefix_of_prefix_length_le hwithin hfirst hlength
        refine Or.inl ⟨first, List.mem_cons_self .., ?_⟩
        exact (List.suffix_append before pair).isInfix.trans hbegins.isInfix

/-- A text of clean pieces is contained exactly when no delimiter is spelled across a seam. -/
theorem contained_flatten_iff {pieces : List Text} (h : ∀ piece ∈ pieces, Clean piece) :
    Contained pieces.flatten ↔
      ∀ front back, pieces = front ++ back → ¬ SpelledAcross front.flatten back.flatten := by
  constructor
  · rintro hcontained front back rfl ⟨before, pair, after, hoccurs, -⟩
    rw [List.flatten_append] at hcontained
    exact contained_iff.mp hcontained before pair after hoccurs
  · intro hseams
    rw [contained_iff]
    intro before pair after hoccurs
    obtain ⟨first, others, hcons, -⟩ := exists_cons_of_spelledPair hoccurs.spelled
    have hpair : pair ≠ [] := by simp [hcons]
    rcases exists_seam hpair hoccurs.split with
      ⟨piece, hpiece, hlies⟩ | ⟨front, back, hsplit, hlow, hhigh⟩
    · exact h piece hpiece pair hoccurs.spelled hlies
    · refine hseams front back hsplit ⟨before, pair, after, ?_, hlow, hhigh⟩
      rw [← List.flatten_append, ← hsplit]
      exact hoccurs

end JvmSource.DocComment
