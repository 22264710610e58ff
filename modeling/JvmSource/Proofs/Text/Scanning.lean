import Mathlib.Data.List.TakeWhile
import Mathlib.Tactic.Common
import JvmSource.Text.Basic

/-!
# Scanning

A scanner takes the longest start of a text whose characters it accepts. It stops where a text
begins that does not start with such a character, so what it takes and what it leaves are told by
any text that is put together in this way.
-/

namespace JvmSource.Text

variable {p : Char → Bool} {taken rest : Text}

theorem takeWhile_append_of_stop (h : ∀ c, rest.head? = some c → p c = false) (text : Text) :
    (text ++ rest).takeWhile p = text.takeWhile p := by
  induction text with
  | nil =>
    cases rest with
    | nil => rfl
    | cons c rest => simp [h c rfl]
  | cons c text ih =>
    rw [List.cons_append, List.takeWhile_cons, List.takeWhile_cons, ih]

theorem dropWhile_append_of_stop (h : ∀ c, rest.head? = some c → p c = false) (text : Text) :
    (text ++ rest).dropWhile p = text.dropWhile p ++ rest := by
  induction text with
  | nil =>
    cases rest with
    | nil => rfl
    | cons c rest => simp [h c rfl]
  | cons c text ih =>
    rw [List.cons_append, List.dropWhile_cons, List.dropWhile_cons, ih]
    split <;> rfl

/-- A scanner takes what it accepts, up to where it stops. -/
theorem takeWhile_append_eq_left (htaken : ∀ c ∈ taken, p c = true)
    (h : ∀ c, rest.head? = some c → p c = false) : (taken ++ rest).takeWhile p = taken := by
  rw [takeWhile_append_of_stop h, List.takeWhile_eq_self_iff.mpr htaken]

/-- A scanner leaves what follows from where it stops. -/
theorem dropWhile_append_eq_right (htaken : ∀ c ∈ taken, p c = true)
    (h : ∀ c, rest.head? = some c → p c = false) : (taken ++ rest).dropWhile p = rest := by
  rw [dropWhile_append_of_stop h, List.dropWhile_eq_nil_iff.mpr htaken, List.nil_append]

/-- What a scanner leaves is what is behind the characters it takes. -/
theorem drop_length_takeWhile (p : Char → Bool) (text : Text) :
    text.drop (text.takeWhile p).length = text.dropWhile p := by
  have h : (text.takeWhile p ++ text.dropWhile p).drop (text.takeWhile p).length =
      text.dropWhile p := List.drop_left
  rwa [List.takeWhile_append_dropWhile] at h

/-- A scanner that stops within a text does not reach what follows the text. -/
theorem scan_append_of_ne_nil {text : Text} (h : text.dropWhile p ≠ []) (rest : Text) :
    (text ++ rest).takeWhile p = text.takeWhile p ∧
      (text ++ rest).dropWhile p = text.dropWhile p ++ rest := by
  induction text with
  | nil => exact absurd rfl h
  | cons c text ih =>
    rw [List.dropWhile_cons] at h
    rw [List.cons_append, List.dropWhile_cons, List.takeWhile_cons, List.dropWhile_cons,
      List.takeWhile_cons]
    split
    · next hc =>
      rw [if_pos hc] at h
      exact ⟨by rw [(ih h).1], (ih h).2⟩
    · exact ⟨rfl, rfl⟩

end JvmSource.Text
