import JvmSource.Unicode.Property

/-!
# Text

Text is a list of characters, so that cutting and joining it are list operations. This module adds
the few that lists lack: splitting at a separator and trimming white space.
-/

namespace JvmSource

/-- A sequence of Unicode characters. -/
abbrev Text := List Char

namespace Text

/-- The pieces between the occurrences of a separator; there is always at least one. -/
def split (separator : Char) : Text → List Text
  | [] => [[]]
  | c :: rest =>
    if c = separator then [] :: split separator rest
    else match split separator rest with
      | [] => [[c]]
      | piece :: pieces => (c :: piece) :: pieces

/-- Removes white space from the start. -/
def trimStart (text : Text) : Text := text.dropWhile Unicode.isBlank

/-- Removes white space from the end. -/
def trimEnd (text : Text) : Text := (text.reverse.dropWhile Unicode.isBlank).reverse

/-- Removes white space from both ends. -/
def trim (text : Text) : Text := trimEnd (trimStart text)

/-- Repeats a text. -/
def times : Nat → Text → Text
  | 0, _ => []
  | n + 1, text => text ++ times n text

/-- The names of a dotted path, written with dots between them. -/
def dotted (names : List Text) : Text := ['.'].intercalate names

theorem length_times (n : Nat) (text : Text) : (times n text).length = n * text.length := by
  induction n with
  | zero => simp [times]
  | succ n ih => rw [times, List.length_append, ih, Nat.succ_mul, Nat.add_comm]

theorem split_ne_nil (separator : Char) (text : Text) : split separator text ≠ [] := by
  cases text with
  | nil => simp [split]
  | cons c rest =>
    rw [split]
    split
    · simp
    · split <;> simp

end Text

end JvmSource
