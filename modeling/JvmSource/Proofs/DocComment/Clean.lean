import Mathlib.Data.List.Infix
import Mathlib.Tactic.Common
import JvmSource.Proofs.DocComment.Decoding

/-!
# What escaping leaves

A text is clean if no comment delimiter is spelled in it, decoded or not. Escaping leaves clean
texts, and parts of clean texts are clean. Nothing is said about two clean texts that are put side
by side: the first may end with one character of a delimiter and the second start with the other.
-/

namespace JvmSource.DocComment

/-- Whether no comment delimiter is spelled in a text. -/
def Clean (text : Text) : Prop := ∀ pair, SpelledPair pair → ¬ pair <:+: text

variable {text rest spelled pair : Text} {delimiter : Delimiter} {c : Char}

/-! ## Characters of spellings -/

/-- Characters that spellings start with. -/
def isStart (c : Char) : Bool := c == '/' || c == '*' || c == '\\'

/-- Characters of an escaped delimiter after its backslash. -/
def isInside (c : Char) : Bool :=
  c == 'u' || c == '0' || c == '2' || c == 'a' || c == 'A' || c == 'f' || c == 'F'

/-- No character both starts a spelling and stands inside an escape. -/
theorem isStart_of_isInside (h : isInside c = true) : isStart c = false := by
  simp only [isInside, Bool.or_eq_true, beq_iff_eq] at h
  rcases h with (((((rfl | rfl) | rfl) | rfl) | rfl) | rfl) | rfl <;> rfl

/-- A spelling is a start, and then only characters that are none. -/
theorem exists_cons_of_spelling (h : Spelling delimiter spelled) :
    ∃ first inside, spelled = first :: inside ∧ isStart first = true ∧
      ∀ c ∈ inside, isInside c = true := by
  cases h with
  | char => exact ⟨delimiter.char, [], rfl, by cases delimiter <;> rfl, by simp⟩
  | escape marks last marks_pos last_mem =>
    refine ⟨'\\', _, rfl, rfl, fun c hc => ?_⟩
    simp only [List.mem_append, List.mem_replicate, List.mem_cons, List.not_mem_nil, or_false] at hc
    rcases hc with ⟨-, rfl⟩ | rfl | rfl | rfl | rfl
    · rfl
    · rfl
    · rfl
    · rfl
    · cases delimiter <;>
        simp only [Delimiter.lastDigits, List.mem_cons, List.not_mem_nil, or_false] at last_mem <;>
        rcases last_mem with rfl | rfl <;> rfl

/-- A spelled pair starts with a character that starts a spelling. -/
theorem exists_cons_of_spelledPair (h : SpelledPair pair) :
    ∃ first others, pair = first :: others ∧ isStart first = true := by
  obtain ⟨hleft, -, -⟩ := h
  obtain ⟨first, inside, rfl, hfirst, -⟩ := exists_cons_of_spelling hleft
  exact ⟨first, _, rfl, hfirst⟩

/-- A spelled pair consists of characters that start spellings or stand inside them. -/
theorem mem_spelledPair (h : SpelledPair pair) :
    ∀ c ∈ pair, isStart c = true ∨ isInside c = true := by
  have hspelling : ∀ {delimiter : Delimiter} {spelled : Text}, Spelling delimiter spelled →
      ∀ c ∈ spelled, isStart c = true ∨ isInside c = true := by
    intro delimiter spelled hspelled c hc
    obtain ⟨first, inside, rfl, hfirst, hinside⟩ := exists_cons_of_spelling hspelled
    rcases List.mem_cons.mp hc with rfl | hc
    · exact Or.inl hfirst
    · exact Or.inr (hinside c hc)
  obtain ⟨hleft, hright, -⟩ := h
  intro c hc
  rcases List.mem_append.mp hc with hc | hc
  · exact hspelling hleft c hc
  · exact hspelling hright c hc

/-- Whether a character occurs in no spelling. -/
def IsApart (c : Char) : Prop := isStart c = false ∧ isInside c = false

instance (c : Char) : Decidable (IsApart c) := inferInstanceAs (Decidable (_ ∧ _))

/-- A character apart from all spellings stands in no spelled pair. -/
theorem not_mem_spelledPair (h : SpelledPair pair) (hc : IsApart c) : c ∉ pair := by
  intro hmem
  rcases mem_spelledPair h c hmem with hstart | hinside
  · rw [hc.1] at hstart
    exact absurd hstart (by simp)
  · rw [hc.2] at hinside
    exact absurd hinside (by simp)

/-! ## Parts of clean texts -/

/-- A part of a clean text is clean. -/
theorem Clean.of_infix {part : Text} (h : Clean text) (hpart : part <:+: text) : Clean part :=
  fun pair hpair hlies => h pair hpair (hlies.trans hpart)

/-- What occurs in a text that is divided by another character occurs in one of the parts. -/
theorem append_cons_cases {left right before after : Text}
    (h : left ++ c :: right = before ++ (pair ++ after)) (hpair : SpelledPair pair)
    (hc : IsApart c) :
    (∃ past, left = before ++ (pair ++ past)) ∨
      ∃ past, before = left ++ c :: past ∧ right = past ++ (pair ++ after) := by
  have hmem : c ∉ pair := not_mem_spelledPair hpair hc
  rcases List.append_eq_append_iff.mp h with ⟨past, hbefore, hrest⟩ | ⟨part, hleft, hrest⟩
  · -- the pair starts behind the first part, and not with the dividing character
    cases past with
    | nil =>
      obtain ⟨first, others, rfl, -⟩ := exists_cons_of_spelledPair hpair
      have hfirst : c = first := (List.cons.inj hrest).1
      exact absurd (by simp [hfirst]) hmem
    | cons char past =>
      obtain ⟨rfl, hright⟩ := List.cons.inj hrest
      exact Or.inr ⟨past, hbefore, hright⟩
  · -- the pair starts in the first part, and ends there as it cannot hold the dividing character
    rcases List.append_eq_append_iff.mp hrest with ⟨past, hpart, -⟩ | ⟨more, hmore, hright⟩
    · exact Or.inl ⟨past, by rw [hleft, hpart]⟩
    · cases more with
      | nil =>
        rw [List.append_nil] at hmore
        exact Or.inl ⟨[], by rw [hleft, hmore, List.append_nil]⟩
      | cons char more =>
        have hchar : c = char := (List.cons.inj hright).1
        exact absurd (by simp [hmore, hchar]) hmem

/-- Clean texts may be joined by a character that occurs in no spelling. -/
theorem Clean.append_cons {left right : Text} (hleft : Clean left) (hc : IsApart c)
    (hright : Clean right) : Clean (left ++ c :: right) := by
  rintro pair hpair ⟨before, after, hsplit⟩
  rw [List.append_assoc] at hsplit
  rcases append_cons_cases hsplit.symm hpair hc with ⟨past, hlies⟩ | ⟨past, -, hlies⟩
  · exact hleft pair hpair ⟨before, past, by rw [hlies, List.append_assoc]⟩
  · exact hright pair hpair ⟨past, after, by rw [hlies, List.append_assoc]⟩

/-- A text that no spelling starts in is clean. -/
theorem clean_of_forall (h : ∀ c ∈ text, isStart c = false) : Clean text := by
  intro pair hpair hlies
  obtain ⟨first, others, rfl, hfirst⟩ := exists_cons_of_spelledPair hpair
  have hmem : first ∈ text := hlies.subset (List.mem_cons_self ..)
  rw [h first hmem] at hfirst
  exact absurd hfirst (by simp)

/-! ## Finding spellings -/

theorem countU_eq (text : Text) : countU text = (text.takeWhile (· == 'u')).length := by
  induction text with
  | nil => rfl
  | cons c rest ih =>
    by_cases hc : c = 'u'
    · subst hc
      rw [countU, ih]
      rfl
    · have hstop : countU (c :: rest) = 0 := by
        unfold countU
        split
        · next h => exact absurd (List.cons.inj h).1 hc
        · rfl
      have hcond : (c == 'u') = false := by simp [hc]
      rw [hstop, List.takeWhile_cons, hcond]
      rfl

/-- After its marks, an escaped delimiter consists of two zeros, a two and the last digit of the
delimiter. -/
theorem escaped?_eq_some_iff :
    escaped? text = some delimiter ↔
      ∃ last rest, text = '0' :: '0' :: '2' :: last :: rest ∧ last ∈ delimiter.lastDigits := by
  constructor
  · intro h
    unfold escaped? at h
    split at h
    · next c rest =>
      refine ⟨c, rest, rfl, ?_⟩
      split at h
      · next hstar =>
        simp only [Bool.or_eq_true, decide_eq_true_eq] at hstar
        cases h
        rcases hstar with rfl | rfl <;> decide
      · split at h
        · next hslash =>
          simp only [Bool.or_eq_true, decide_eq_true_eq] at hslash
          cases h
          rcases hslash with rfl | rfl <;> decide
        · exact absurd h (by simp)
    · exact absurd h (by simp)
  · rintro ⟨last, rest, rfl, hlast⟩
    cases delimiter <;>
      simp only [Delimiter.lastDigits, List.mem_cons, List.not_mem_nil, or_false] at hlast <;>
      rcases hlast with rfl | rfl <;> rfl

/-- The marks of an escape, and what stands behind them. -/
theorem exists_marks (text : Text) :
    text = List.replicate (countU text) 'u' ++ text.drop (countU text) := by
  have hrun : text.takeWhile (· == 'u') = List.replicate (countU text) 'u' := by
    rw [countU_eq]
    exact marks_eq_replicate text
  have htake : text.take (countU text) = List.replicate (countU text) 'u' := by
    rw [← hrun, countU_eq]
    exact (List.prefix_iff_eq_take.mp (List.takeWhile_prefix _)).symm
  rw [← htake, List.take_append_drop]

/-- The marks of an escape are counted up to the first other character. -/
theorem countU_replicate (marks : Nat) {rest : Text} (h : rest.head? ≠ some 'u') :
    countU (List.replicate marks 'u' ++ rest) = marks := by
  have hstop : ∀ c, rest.head? = some c → (c == 'u') = false := by
    intro c hc
    rw [hc] at h
    simpa using h
  rw [countU_eq, Text.takeWhile_append_eq_left (isMark_of_mem marks) hstop, List.length_replicate]

/-- What is found at the start of a text is a spelling. -/
theorem spelling_of_delimiter? {length : Nat} (h : delimiter? text = some (delimiter, length)) :
    ∃ spelled rest, text = spelled ++ rest ∧ Spelling delimiter spelled ∧
      spelled.length = length := by
  unfold delimiter? at h
  split at h
  · next rest =>
    cases h
    exact ⟨['/'], rest, rfl, .char, rfl⟩
  · next rest =>
    cases h
    exact ⟨['*'], rest, rfl, .char, rfl⟩
  · next rest =>
    simp only at h
    split at h
    · exact absurd h (by simp)
    · next hmarks =>
      obtain ⟨found, hfound, heq⟩ := Option.map_eq_some_iff.mp h
      cases heq
      obtain ⟨last, after, hafter, hlast⟩ := escaped?_eq_some_iff.mp hfound
      -- the backslash is followed by the marks, and these by the digits
      have htext : rest =
          List.replicate (countU rest) 'u' ++ ('0' :: '0' :: '2' :: last :: after) := by
        rw [← hafter]
        exact exists_marks rest
      refine ⟨'\\' :: (List.replicate (countU rest) 'u' ++ ['0', '0', '2', last]), after, ?_,
        .escape _ last (Nat.pos_of_ne_zero hmarks) hlast, ?_⟩
      · conv_lhs => rw [htext]
        simp
      · simp only [List.length_cons, List.length_append, List.length_replicate, List.length_nil]
        omega
  · exact absurd h (by simp)

/-- A spelling at the start of a text is found. -/
theorem delimiter?_of_spelled (h : Spelling delimiter spelled) (hbegins : spelled <+: text) :
    delimiter? text = some (delimiter, spelled.length) := by
  obtain ⟨rest, rfl⟩ := hbegins
  cases h with
  | char => cases delimiter <;> rfl
  | escape marks last marks_pos last_mem =>
    have hcount : countU (List.replicate marks 'u' ++ (['0', '0', '2', last] ++ rest)) = marks :=
      countU_replicate marks (by simp)
    have hdrop : (List.replicate marks 'u' ++ (['0', '0', '2', last] ++ rest)).drop marks =
        ['0', '0', '2', last] ++ rest := by
      have hlength : (List.replicate marks 'u').length = marks := List.length_replicate
      exact List.drop_left' hlength
    have hescaped : escaped? (['0', '0', '2', last] ++ rest) = some delimiter :=
      escaped?_eq_some_iff.mpr ⟨last, rest, rfl, last_mem⟩
    rw [List.cons_append, List.append_assoc, delimiter?]
    simp only [hcount, hdrop, hescaped]
    rw [if_neg (by omega)]
    simp only [Option.map_some, Option.some.injEq, Prod.mk.injEq, true_and, List.length_cons,
      List.length_append, List.length_replicate, List.length_nil]
    omega

/-- Where no delimiter is found, no spelling of one starts. -/
theorem not_starts_of_delimiter? (h : delimiter? text = none)
    (hspelled : Spelling delimiter spelled) : ¬ spelled <+: text := by
  intro hbegins
  rw [delimiter?_of_spelled hspelled hbegins] at h
  exact absurd h (by simp)

/-- A text starts with one spelling at most. -/
theorem eq_of_delimiter? {other : Delimiter} {length : Nat}
    (h : delimiter? text = some (delimiter, length)) (hspelled : Spelling other spelled)
    (hbegins : spelled <+: text) : other = delimiter ∧ spelled.length = length := by
  rw [delimiter?_of_spelled hspelled hbegins] at h
  simpa using h

/-- No spelling starts with a character that starts none. -/
theorem not_starts_of_isStart (h : isStart c = false) (hspelled : Spelling delimiter spelled) :
    ¬ spelled <+: c :: rest := by
  intro hbegins
  obtain ⟨start, inside, rfl, hstart, -⟩ := exists_cons_of_spelling hspelled
  obtain ⟨rfl, -⟩ := List.cons_prefix_cons.mp hbegins
  rw [h] at hstart
  exact absurd hstart (by simp)

/-! ## Putting a character before a clean text -/

/-- A character may be put before a clean text if no pair starts with it. -/
theorem Clean.cons (h : Clean text)
    (hpair : ∀ first left, Spelling first left → left <+: c :: text →
      ∀ second right, first.meets second = true → Spelling second right →
        ¬ right <+: (c :: text).drop left.length) : Clean (c :: text) := by
  intro pair hspelled hlies
  rcases List.infix_cons_iff.mp hlies with hbegins | hlies
  · obtain @⟨first, second, left, right, hleft, hright, hmeets⟩ := hspelled
    have hfirst : left <+: c :: text := (List.prefix_append left right).trans hbegins
    refine hpair first left hleft hfirst second right hmeets hright ?_
    obtain ⟨more, hmore⟩ := hbegins
    rw [← hmore, List.append_assoc, List.drop_left]
    exact List.prefix_append right more
  · exact h pair hspelled hlies

/-- A clean text stays clean when a character is put before it with which no spelling starts. -/
theorem Clean.cons_of_not_starts (h : Clean text)
    (hnone : ∀ first left, Spelling first left → ¬ left <+: c :: text) : Clean (c :: text) :=
  h.cons fun first left hleft hbegins => absurd hbegins (hnone first left hleft)

/-- A delimiter character may be put before a clean text that goes on with none that it meets. -/
theorem Clean.cons_of_delimiter? {length : Nat} (h : Clean text)
    (hfound : delimiter? (c :: text) = some (delimiter, length))
    (hmeets : ∀ second right, delimiter.meets second = true → Spelling second right →
      ¬ right <+: (c :: text).drop length) : Clean (c :: text) := by
  refine h.cons fun first left hleft hbegins second right hpair hright => ?_
  obtain ⟨rfl, rfl⟩ := eq_of_delimiter? hfound hleft hbegins
  exact hmeets second right hpair hright

/-! ## Escaping -/

/-- Escaping puts nothing between the characters of an escape. -/
theorem takeWhile_escapeFrom (previous : Option Delimiter) (inside : Nat) (text : Text) :
    (escapeFrom previous inside text).takeWhile isInside = text.takeWhile isInside := by
  induction text generalizing previous inside with
  | nil => cases inside <;> rfl
  | cons c rest ih =>
    cases inside with
    | succ inside => rw [escapeFrom, List.takeWhile_cons, List.takeWhile_cons, ih]
    | zero =>
      rw [escapeFrom]
      cases hfound : delimiter? (c :: rest) with
      | none =>
        simp only
        rw [List.takeWhile_cons, List.takeWhile_cons, ih]
      | some found =>
        obtain ⟨delimiter, length⟩ := found
        obtain ⟨spelled, after, htext, hspelled, -⟩ := spelling_of_delimiter? hfound
        obtain ⟨first, others, rfl, hfirst, -⟩ := exists_cons_of_spelling hspelled
        obtain rfl : c = first := (List.cons.inj htext).1
        -- neither a space nor the start of a spelling belongs to a run
        have hc : isInside c = false := by
          rw [Bool.eq_false_iff]
          intro hinside
          rw [isStart_of_isInside hinside] at hfirst
          exact absurd hfirst (by simp)
        have hspace : isInside ' ' = false := rfl
        simp only
        split <;> simp [hc, hspace]

/-- Two texts that agree as far as a property holds have the same prefixes with this property. -/
theorem prefix_of_takeWhile_eq {p : Char → Bool} {part rest rest' : Text}
    (hpart : ∀ c ∈ part, p c = true) (h : part <+: rest)
    (heq : rest.takeWhile p = rest'.takeWhile p) : part <+: rest' := by
  obtain ⟨more, rfl⟩ := h
  rw [List.takeWhile_append_of_pos hpart] at heq
  have hrun : part <+: rest'.takeWhile p := ⟨_, heq⟩
  exact hrun.trans (List.takeWhile_prefix p)

/-- What a text starts with is told by the characters that an escape may have. -/
theorem delimiter?_congr (h : rest.takeWhile isInside = text.takeWhile isInside) (c : Char) :
    delimiter? (c :: rest) = delimiter? (c :: text) := by
  have hone : ∀ {rest rest' : Text}, rest.takeWhile isInside = rest'.takeWhile isInside →
      ∀ found, delimiter? (c :: rest) = some found → delimiter? (c :: rest') = some found := by
    rintro rest rest' heq ⟨delimiter, length⟩ hfound
    obtain ⟨spelled, after, htext, hspelled, rfl⟩ := spelling_of_delimiter? hfound
    obtain ⟨first, others, rfl, -, hothers⟩ := exists_cons_of_spelling hspelled
    obtain ⟨rfl, rfl⟩ := List.cons.inj htext
    have hbegins := prefix_of_takeWhile_eq hothers (List.prefix_append others after) heq
    exact delimiter?_of_spelled hspelled (List.cons_prefix_cons.mpr ⟨rfl, hbegins⟩)
  apply Option.ext
  intro found
  exact ⟨hone h found, hone h.symm found⟩

/-- Escaping from any point on leaves a clean text, which does not start with a delimiter character
that meets the one before it. -/
theorem clean_escapeFrom (previous : Option Delimiter) (inside : Nat)
    (hinside : ∀ c ∈ text.take inside, isInside c = true) :
    Clean (escapeFrom previous inside text) ∧
      ∀ before, previous = some before → ∀ delimiter spelled, before.meets delimiter = true →
        Spelling delimiter spelled → ¬ spelled <+: (escapeFrom previous inside text).drop inside := by
  induction text generalizing previous inside with
  | nil =>
    have hnil : escapeFrom previous inside [] = [] := by cases inside <;> rfl
    rw [hnil, List.drop_nil]
    refine ⟨clean_of_forall (by simp), fun before _ delimiter spelled _ hspelled => ?_⟩
    exact not_starts_of_delimiter? rfl hspelled
  | cons c rest ih =>
    cases inside with
    | succ inside =>
      obtain ⟨hclean, hmeets⟩ :=
        ih previous inside fun d hd => hinside d (List.mem_cons_of_mem _ hd)
      rw [escapeFrom]
      -- a character of an escape that is passed over starts nothing
      have hinner : isStart c = false := isStart_of_isInside (hinside c (by simp))
      refine ⟨hclean.cons_of_not_starts fun first left hleft => ?_, hmeets⟩
      exact not_starts_of_isStart hinner hleft
    | zero =>
      rw [escapeFrom]
      cases hfound : delimiter? (c :: rest) with
      | none =>
        simp only
        obtain ⟨hclean, -⟩ := ih none 0 (by simp)
        have hnone : delimiter? (c :: escapeFrom none 0 rest) = none := by
          rw [← hfound]
          exact delimiter?_congr (takeWhile_escapeFrom none 0 rest) c
        refine ⟨hclean.cons_of_not_starts fun first left hleft => ?_,
          fun before _ delimiter spelled _ hspelled => not_starts_of_delimiter? hnone hspelled⟩
        exact not_starts_of_delimiter? hnone hleft
      | some found =>
        obtain ⟨delimiter, length⟩ := found
        obtain ⟨spelled, after, htext, hspelled, rfl⟩ := spelling_of_delimiter? hfound
        obtain ⟨start, others, rfl, -, hothers⟩ := exists_cons_of_spelling hspelled
        obtain ⟨rfl, rfl⟩ := List.cons.inj htext
        have hlength : (c :: others).length - 1 = others.length := rfl
        obtain ⟨hclean, hmeets⟩ := ih (some delimiter) others.length (by simpa using hothers)
        have hsome : delimiter? (c :: escapeFrom (some delimiter) others.length (others ++ after)) =
            some (delimiter, (c :: others).length) := by
          rw [← hfound]
          exact delimiter?_congr (takeWhile_escapeFrom _ _ _) c
        have hstarts : Clean (c :: escapeFrom (some delimiter) others.length (others ++ after)) :=
          hclean.cons_of_delimiter? hsome (hmeets delimiter rfl)
        simp only [hlength]
        by_cases hafter : previous.any (·.meets delimiter) = true
        · -- the space that is put in keeps this delimiter character from the one before it
          have hspace : isStart ' ' = false := rfl
          rw [if_pos hafter]
          refine ⟨hstarts.cons_of_not_starts fun first left hleft => ?_,
            fun before _ second right _ hright => not_starts_of_isStart hspace hright⟩
          exact not_starts_of_isStart hspace hleft
        · rw [if_neg hafter]
          refine ⟨hstarts, ?_⟩
          rintro before rfl second right hpair hright hbegins
          obtain ⟨rfl, -⟩ := eq_of_delimiter? hsome hright hbegins
          exact hafter (by simpa using hpair)

/-- Escaped texts are clean. -/
theorem clean_escape (text : Text) : Clean (escape text) :=
  (clean_escapeFrom none 0 (by simp)).1

/-! ## What compilers see -/

/-- Decoding a clean text brings no comment delimiter to light. -/
theorem Clean.contained (h : Clean text) : Contained text := by
  rw [contained_iff]
  intro before pair after hoccurs
  refine h pair hoccurs.spelled ⟨before, after, ?_⟩
  rw [hoccurs.split, List.append_assoc]

end JvmSource.DocComment
