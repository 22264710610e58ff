import Mathlib.Tactic.Common
import JvmSource.Pattern.Input
import JvmSource.Proofs.Text.Scanning

/-!
# What follows a pattern

Reading goes forward: what it leaves is a suffix of what it starts from. Text behind a pattern is
not touched by a reading that leaves all of it, and such a reading is possible without it. The text
behind is that of the wrapper for whole matches, `closing`: its parenthesis ends whatever is read,
except inside a comment, which swallows both characters.
-/

namespace JvmSource.Pattern

/-- What the wrapper for whole matches puts behind a pattern. -/
def closing : Text := [')', '$']

namespace Input

/-- An input with the closing behind it. -/
def closed (input : Input) : Input := { input with rest := input.rest ++ closing }

variable {input after : Input} {test : Char → Bool}

@[simp] theorem closed_verbose : input.closed.verbose = input.verbose := rfl

@[simp] theorem closed_rest : input.closed.rest = input.rest ++ closing := rfl

/-! ## Reading goes forward -/

/-- What is left behind ignored characters is a suffix of the text. -/
theorem dropIgnored_suffix (comment : Bool) (text : Text) : dropIgnored comment text <:+ text := by
  induction text generalizing comment with
  | nil => cases comment <;> exact List.suffix_rfl
  | cons c rest ih =>
    have hrest : rest <:+ c :: rest := List.suffix_cons c rest
    cases comment with
    | true => exact (ih _).trans hrest
    | false =>
      rw [dropIgnored]
      split
      · exact (ih false).trans hrest
      · split
        · exact (ih true).trans hrest
        · exact List.suffix_rfl

theorem skip_suffix (input : Input) : input.skip.rest <:+ input.rest := by
  rw [skip]
  split
  · exact dropIgnored_suffix false input.rest
  · exact List.suffix_rfl

/-- A step from where ignored characters end goes as far as one from where they start. -/
theorem tail_skip_suffix (input : Input) : input.skip.rest.tail <:+ input.rest.tail := by
  obtain ⟨front, hfront⟩ := skip_suffix input
  rw [← hfront]
  cases front with
  | nil => exact List.suffix_rfl
  | cons c front => exact (List.tail_suffix _).trans (List.suffix_append front _)

theorem drop_suffix (input : Input) (count : Nat) : (input.drop count).rest <:+ input.rest :=
  List.drop_suffix count input.rest

theorem drop_one_suffix (input : Input) : (input.drop 1).rest <:+ input.rest.tail :=
  List.drop_one ▸ List.suffix_rfl

/-- Moving to the next character takes one character at least. -/
theorem next_suffix (input : Input) : input.next.rest <:+ input.rest.tail :=
  (skip_suffix (input.drop 1)).trans (drop_one_suffix input)

theorem next_suffix_rest (input : Input) : input.next.rest <:+ input.rest :=
  (next_suffix input).trans (List.tail_suffix input.rest)

theorem dropBlanks_suffix (input : Input) : input.dropBlanks.rest <:+ input.rest :=
  List.dropWhile_suffix Unicode.isBlank

theorem readWhile_nil (hrest : input.rest = []) (bound : Nat) :
    input.readWhile test bound = ([], input) := by
  cases bound with
  | zero => rfl
  | succ bound => rw [readWhile, hrest]

/-- Reading goes on with the next character as long as the test is passed. -/
theorem readWhile_cons {c : Char} {rest : Text} (hrest : input.rest = c :: rest) (bound : Nat) :
    input.readWhile test (bound + 1) =
      if test c then
        (c :: (input.next.readWhile test bound).1, (input.next.readWhile test bound).2)
      else ([], input) := by
  rw [readWhile, hrest]

/-- What is left behind the characters that pass a test is a suffix of the input. -/
theorem readWhile_suffix (test : Char → Bool) (bound : Nat) (input : Input) :
    (input.readWhile test bound).2.rest <:+ input.rest := by
  induction bound generalizing input with
  | zero => exact List.suffix_rfl
  | succ bound ih =>
    cases hrest : input.rest with
    | nil =>
      rw [readWhile_nil hrest]
      exact hrest ▸ List.suffix_rfl
    | cons c rest =>
      rw [readWhile_cons hrest, ← hrest]
      split
      · exact (ih input.next).trans input.next_suffix_rest
      · exact List.suffix_rfl

/-! ## What is left ends with the closing -/

/-- Where a character has been read and all of the closing is left, the character was not of the
closing. -/
theorem exists_cons (hsuffix : after.rest <:+ input.closed.rest.tail)
    (hlong : 2 ≤ after.rest.length) : ∃ c rest, input.rest = c :: rest := by
  cases hrest : input.rest with
  | nil =>
    have hle := hsuffix.length_le
    rw [closed_rest, hrest] at hle
    exact absurd (Nat.le_trans hlong hle) (by decide)
  | cons c rest => exact ⟨c, rest, rfl⟩

/-- A character before the closing that is not its parenthesis is a character of the text. -/
theorem cons_of_append_closing {c : Char} {text more : Text} (h : text ++ closing = c :: more)
    (hc : c ≠ ')') : ∃ rest, text = c :: rest ∧ more = rest ++ closing := by
  cases text with
  | nil => exact absurd (List.cons.inj h).1.symm hc
  | cons first rest =>
    obtain ⟨rfl, rfl⟩ := List.cons.inj h
    exact ⟨rest, rfl, rfl⟩

/-- A character before all of the closing is a character of the text. -/
theorem cons_of_append_closing_of_le {c : Char} {text more : Text}
    (h : text ++ closing = c :: more) (hlong : 2 ≤ more.length) :
    ∃ rest, text = c :: rest ∧ more = rest ++ closing := by
  cases text with
  | nil =>
    obtain ⟨-, rfl⟩ := List.cons.inj h
    exact absurd hlong (by decide)
  | cons first rest =>
    obtain ⟨rfl, rfl⟩ := List.cons.inj h
    exact ⟨rest, rfl, rfl⟩

/-- In front of the closing, a character that is not its parenthesis is one of the input. -/
theorem rest_of_closed {c : Char} {text : Text} (h : input.closed.rest = c :: text)
    (hc : c ≠ ')') : ∃ rest, input.rest = c :: rest ∧ text = rest ++ closing :=
  cons_of_append_closing h hc

/-- Before the closing stands the first character of the text or, if there is none, the
parenthesis. -/
theorem head?_append_closing (text : Text) :
    (text ++ closing).head? = some (text.head?.getD ')') := by
  cases text <;> rfl

/-- Ignored characters are the same with the closing behind them, or a comment swallows the
closing. -/
theorem dropIgnored_closing (comment : Bool) (text : Text) :
    dropIgnored comment (text ++ closing) = dropIgnored comment text ++ closing ∨
      dropIgnored comment (text ++ closing) = [] := by
  induction text generalizing comment with
  | nil =>
    cases comment with
    -- a comment that nothing ends swallows the closing
    | true => exact Or.inr rfl
    | false => exact Or.inl (by decide)
  | cons c rest ih =>
    cases comment with
    | true => exact ih (c != '\n')
    | false =>
      rw [List.cons_append, dropIgnored, dropIgnored]
      split
      · exact ih false
      · split
        · exact ih true
        · exact Or.inl rfl

/-- The closing is left as it is or swallowed by a comment. -/
theorem skip_closed_or : input.closed.skip = input.skip.closed ∨ input.closed.skip.rest = [] := by
  rw [skip, skip, closed_verbose]
  split
  · rcases dropIgnored_closing false input.rest with h | h
    · exact Or.inl (by simp only [closed, h])
    · exact Or.inr h
  · exact Or.inl rfl

/-- If all of the closing is left behind ignored characters, these are the same without it. -/
theorem skip_closed (hlong : 2 ≤ input.closed.skip.rest.length) :
    input.closed.skip = input.skip.closed := by
  refine skip_closed_or.resolve_right fun h => ?_
  rw [h] at hlong
  exact absurd hlong (by decide)

/-- Dropping characters of the input leaves the closing alone. -/
theorem drop_closed {count : Nat} (h : count ≤ input.rest.length) :
    input.closed.drop count = (input.drop count).closed := by
  simp only [closed, drop, List.drop_append_of_le_length h]

theorem drop_one_closed {c : Char} {rest : Text} (hrest : input.rest = c :: rest) :
    input.closed.drop 1 = (input.drop 1).closed := drop_closed (by simp [hrest])

/-- The next character is the same with the closing behind it, or a comment swallows the closing. -/
theorem next_closed_or {c : Char} {rest : Text} (hrest : input.rest = c :: rest) :
    input.closed.next = input.next.closed ∨ input.closed.next.rest = [] := by
  rw [next, drop_one_closed hrest]
  exact skip_closed_or

/-- If all of the closing is left, the next character is the same without it. -/
theorem next_closed {c : Char} {rest : Text} (hrest : input.rest = c :: rest)
    (hlong : 2 ≤ input.closed.next.rest.length) : input.closed.next = input.next.closed := by
  rw [next, drop_one_closed hrest] at hlong ⊢
  exact skip_closed hlong

theorem isBlank_of_head?_closing (c : Char) (h : closing.head? = some c) :
    Unicode.isBlank c = false := by
  obtain rfl := Option.some.inj h
  decide

/-- The closing is no blank, so blanks end before it at the latest. -/
theorem dropBlanks_closed : input.closed.dropBlanks = input.dropBlanks.closed := by
  simp only [closed, dropBlanks, Text.dropWhile_append_of_stop isBlank_of_head?_closing]

/-- The second character is the same with the closing behind it, or it is the parenthesis. -/
theorem second?_closed {c : Char} {rest : Text} (hrest : input.rest = c :: rest) :
    input.closed.second? = some (input.second?.getD ')') := by
  simp only [second?, closed_verbose, closed_rest, hrest, List.cons_append, List.drop_succ_cons,
    List.drop_zero, Text.dropWhile_append_of_stop isBlank_of_head?_closing]
  split
  · cases rest.dropWhile Unicode.isBlank with
    | nil => rfl
    | cons first more =>
      by_cases hcomment : first = '#'
      · subst hcomment
        simp only [List.cons_append, Text.dropWhile_append_of_stop isBlank_of_head?_closing,
          head?_append_closing]
      · simp [hcomment]
  · exact head?_append_closing rest

/-- A bound that only the length of the input justifies may be the length with or without the
closing. -/
theorem readWhile_closed {bound bound' : Nat} {chars : Text} (hle : bound' ≤ bound)
    (hmin : min bound input.rest.length ≤ bound')
    (h : input.closed.readWhile test bound = (chars, after)) (hlong : 2 ≤ after.rest.length) :
    ∃ left : Input, after = left.closed ∧ input.readWhile test bound' = (chars, left) := by
  -- both bounds go down by one with each character, and the smaller one still covers the input
  induction bound generalizing bound' chars input with
  | zero =>
    obtain rfl := Nat.le_zero.mp hle
    obtain ⟨rfl, rfl⟩ := Prod.mk.inj h
    exact ⟨input, rfl, rfl⟩
  | succ bound ih =>
    cases hrest : input.rest with
    | nil =>
      -- the first character is that of the closing, which must not be read
      have hclosed : input.closed.rest = ')' :: ['$'] := by rw [closed_rest, hrest]; rfl
      rw [readWhile_cons hclosed] at h
      split at h
      · obtain rfl := (Prod.mk.inj h).2
        have hsuffix := (readWhile_suffix test bound input.closed.next).trans input.closed.next_suffix
        obtain ⟨c, rest, hcons⟩ := exists_cons hsuffix hlong
        exact absurd (hrest.symm.trans hcons) (by simp)
      · obtain ⟨rfl, rfl⟩ := Prod.mk.inj h
        exact ⟨input, rfl, readWhile_nil hrest bound'⟩
    | cons c rest =>
      rw [hrest, List.length_cons] at hmin
      obtain ⟨more, rfl⟩ : ∃ more, bound' = more + 1 := ⟨bound' - 1, by omega⟩
      have hclosed : input.closed.rest = c :: (rest ++ closing) := by rw [closed_rest, hrest]; rfl
      rw [readWhile_cons hclosed] at h
      rw [readWhile_cons hrest]
      split at h
      · next hc =>
        obtain ⟨rfl, rfl⟩ := Prod.mk.inj h
        rw [if_pos hc]
        have hnext := Nat.le_trans hlong (readWhile_suffix test bound input.closed.next).length_le
        have hshort := input.next_suffix.length_le
        rw [hrest, List.tail_cons] at hshort
        have hread := congrArg (readWhile test bound) (next_closed hrest hnext)
        obtain ⟨left, hleft, hmore⟩ := ih (Nat.le_of_succ_le_succ hle) (by omega) hread.symm
        exact ⟨left, hleft, by rw [hmore]⟩
      · next hc =>
        obtain ⟨rfl, rfl⟩ := Prod.mk.inj h
        exact ⟨input, rfl, by rw [if_neg hc]⟩

/-- If all of the closing is left behind the characters that pass a test, the same characters are
read without it. -/
theorem readWhile_all_closed {chars : Text}
    (h : input.closed.readWhile test input.closed.rest.length = (chars, after))
    (hlong : 2 ≤ after.rest.length) :
    ∃ left : Input, after = left.closed ∧
      input.readWhile test input.rest.length = (chars, left) := by
  have hle : input.rest.length ≤ input.closed.rest.length := by simp
  exact readWhile_closed hle (Nat.min_le_right _ _) h hlong

end Input

end JvmSource.Pattern
