import Mathlib.Data.List.DropRight
import Mathlib.Tactic.Common
import JvmSource.Text.Basic

/-!
# Trimming

Trimming takes white space off both ends of a text and nothing else. A text whose first and last
characters are not white space is its own trimmed form, whatever white space is put around it. Texts
that differ in white space only are the same once all of it is deleted.
-/

namespace JvmSource.Text

open Unicode (isBlank)

theorem trimEnd_eq_rdropWhile (text : Text) : trimEnd text = text.rdropWhile isBlank := rfl

theorem trimEnd_of_last {front : Text} {last : Char} (h : isBlank last = false) :
    trimEnd (front ++ [last]) = front ++ [last] := by
  rw [trimEnd_eq_rdropWhile]
  exact List.rdropWhile_concat_neg isBlank front last (by simp [h])

theorem trimStart_of_first {first : Char} {rest : Text} (h : isBlank first = false) :
    trimStart (first :: rest) = first :: rest := by
  rw [trimStart]
  exact List.dropWhile_cons_of_neg (by simp [h])

/-- A text without white space at its ends is left as it is. -/
theorem trim_of_ends {text front rest : Text} {first last : Char} (hfirst : text = first :: rest)
    (hlast : text = front ++ [last]) (hblank : isBlank first = false)
    (hblank' : isBlank last = false) : trim text = text := by
  have hstart : trimStart text = text := by rw [hfirst, trimStart_of_first hblank]
  rw [trim, hstart, hlast, trimEnd_of_last hblank']

/-- White space at the start makes no difference. -/
theorem trim_cons {c : Char} (h : isBlank c = true) (text : Text) : trim (c :: text) = trim text := by
  have hstart : trimStart (c :: text) = trimStart text := by
    rw [trimStart, trimStart]
    exact List.dropWhile_cons_of_pos h
  rw [trim, trim, hstart]

/-- Trimming the start of a text cuts off white space. -/
theorem exists_trimStart (text : Text) :
    ∃ before : Text, (∀ c ∈ before, isBlank c = true) ∧ text = before ++ trimStart text := by
  refine ⟨text.takeWhile isBlank, fun c hc => ?_, ?_⟩
  · exact List.mem_takeWhile_imp hc
  · exact List.takeWhile_append_dropWhile.symm

/-- Trimming the end of a text cuts off white space. -/
theorem exists_trimEnd (text : Text) :
    ∃ after : Text, (∀ c ∈ after, isBlank c = true) ∧ text = trimEnd text ++ after := by
  refine ⟨text.rtakeWhile isBlank, fun c hc => ?_, ?_⟩
  · exact List.mem_rtakeWhile_imp hc
  · rw [trimEnd_eq_rdropWhile]
    exact List.rdropWhile_append_rtakeWhile.symm

/-- Nothing but white space is taken off. -/
theorem exists_trim (text : Text) :
    ∃ before after : Text, (∀ c ∈ before, isBlank c = true) ∧ (∀ c ∈ after, isBlank c = true) ∧
      text = before ++ trim text ++ after := by
  obtain ⟨before, hbefore, hstart⟩ := exists_trimStart text
  obtain ⟨after, hafter, hend⟩ := exists_trimEnd (trimStart text)
  refine ⟨before, after, hbefore, hafter, ?_⟩
  calc text = before ++ trimStart text := hstart
    _ = before ++ (trim text ++ after) := by rw [trim, ← hend]
    _ = before ++ trim text ++ after := (List.append_assoc _ _ _).symm

/-! ## White space deleted -/

/-- A text without its white space. -/
def dense (text : Text) : Text := text.filter fun c => !isBlank c

theorem dense_append (first second : Text) : dense (first ++ second) = dense first ++ dense second :=
  List.filter_append first second

/-- Nothing is left of white space. -/
theorem dense_of_blank {text : Text} (h : ∀ c ∈ text, isBlank c = true) : dense text = [] := by
  rw [dense, List.filter_eq_nil_iff]
  intro c hc
  simp [h c hc]

theorem dense_trim (text : Text) : dense (trim text) = dense text := by
  obtain ⟨before, after, hbefore, hafter, htext⟩ := exists_trim text
  conv_rhs => rw [htext, dense_append, dense_append, dense_of_blank hbefore, dense_of_blank hafter]
  rw [List.nil_append, List.append_nil]

/-- A trimmed text starts with the first character that is not white space. -/
theorem head?_trim (text : Text) : (trim text).head? = (dense text).head? := by
  rw [← dense_trim]
  cases htrim : trim text with
  | nil => rfl
  | cons c rest =>
    have hc : isBlank c = false := by
      have hstart := List.head?_dropWhile_not isBlank text
      obtain ⟨after, hafter, hsplit⟩ := exists_trimEnd (trimStart text)
      rw [← trim, htrim] at hsplit
      rw [← trimStart, hsplit] at hstart
      exact hstart
    rw [dense, List.filter_cons_of_pos (by simp [hc])]
    rfl

/-- A trimmed text ends with the last character that is not white space. -/
theorem getLast?_trim (text : Text) : (trim text).getLast? = (dense text).getLast? := by
  rw [← dense_trim]
  rcases List.eq_nil_or_concat (trim text) with htrim | ⟨front, c, htrim⟩
  · rw [htrim]
    rfl
  · rw [List.concat_eq_append] at htrim
    have hc : isBlank c = false := by
      have hend := List.head?_dropWhile_not isBlank (trimStart text).reverse
      have hreverse : (trimStart text).reverse.dropWhile isBlank = (trim text).reverse := by
        rw [trim, trimEnd, List.reverse_reverse]
      rw [hreverse, htrim, List.reverse_append] at hend
      exact hend
    have hdense : dense (front ++ [c]) = dense front ++ [c] := by
      rw [dense_append]
      congr 1
      exact List.filter_cons_of_pos (by simp [hc])
    rw [htrim, hdense]
    simp

/-- White space between texts that are joined by commas can be dropped in each. -/
theorem dense_intercalate (texts : List Text) :
    dense ([','].intercalate texts) = [','].intercalate (texts.map dense) := by
  induction texts with
  | nil => rfl
  | cons text texts ih =>
    cases texts with
    | nil => simp
    | cons next texts =>
      have hcomma : dense [','] = [','] := by decide
      rw [List.intercalate_cons_cons, dense_append, dense_append, hcomma, ih]
      simp only [List.map_cons, List.intercalate_cons_cons]

end JvmSource.Text
