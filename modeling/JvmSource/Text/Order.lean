import JvmSource.Text.Basic

/-!
# Order and size of text

Texts are ordered character by character, which is the order of their UTF-8 bytes as well.
-/

namespace JvmSource.Text

/-- The order of two texts by code point. -/
def order (a b : Text) : Ordering :=
  if a < b then .lt else if b < a then .gt else .eq

/-- The number of UTF-8 bytes of a text. -/
def byteSize (text : Text) : Nat := text.foldl (fun size c => size + c.utf8Size) 0

/-- Adds a text to an ordered list, unless it is there already. -/
def insertDistinct (text : Text) : List Text → List Text
  | [] => [text]
  | first :: rest =>
    if text < first then text :: first :: rest
    else if first < text then first :: insertDistinct text rest
    else first :: rest

theorem mem_insertDistinct {text other : Text} {texts : List Text} :
    other ∈ insertDistinct text texts ↔ other = text ∨ other ∈ texts := by
  induction texts with
  | nil => simp [insertDistinct]
  | cons first rest ih =>
    rw [insertDistinct]
    split
    · simp
    · split
      · rw [List.mem_cons, ih, List.mem_cons]
        exact or_left_comm
      · next hge hle =>
        have hsame : text = first := List.le_antisymm hle hge
        simp [hsame]

theorem pairwise_insertDistinct (text : Text) {texts : List Text}
    (h : texts.Pairwise (· < ·)) : (insertDistinct text texts).Pairwise (· < ·) := by
  induction texts with
  | nil => simp [insertDistinct]
  | cons first rest ih =>
    obtain ⟨hfirst, hrest⟩ := List.pairwise_cons.mp h
    rw [insertDistinct]
    split
    · next hlt =>
      refine List.pairwise_cons.mpr ⟨fun other hother => ?_, h⟩
      rcases List.mem_cons.mp hother with rfl | hother
      · exact hlt
      · exact List.lt_trans hlt (hfirst other hother)
    · split
      · next hlt =>
        refine List.pairwise_cons.mpr ⟨fun other hother => ?_, ih hrest⟩
        rcases mem_insertDistinct.mp hother with rfl | hother
        · exact hlt
        · exact hfirst other hother
      · exact h

/-- The different texts of a list, in order. -/
def distinct (texts : List Text) : List Text := texts.foldr insertDistinct []

end JvmSource.Text
