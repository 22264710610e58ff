import Mathlib.Data.List.TakeWhile
import Mathlib.Tactic.Common
import JvmSource.DocComment.Escape
import JvmSource.Proofs.Text.Scanning
import JvmSource.Proofs.Text.Units

/-!
# What compilers see

Compilers decode escapes before they look for comments: a backslash that stands after an even number
of backslashes, with one or more `u` and four hexadecimal digits behind it, is the code unit with
that number. `decode` gives the code units of a text as a compiler sees them, and a text is
`Contained` if they neither close nor open a comment.

`contained_iff` says this of the text itself: none of the ways to write the two characters of a
comment delimiter occurs in it, unless its backslash is no start of an escape.
-/

namespace JvmSource.DocComment

/-! ## Decoding -/

/-- The code unit of the escape whose backslash stands before a text, and the number of characters
that belong to the escape after the backslash. -/
def unitEscape? (text : Text) : Option (Nat × Nat) :=
  let marks := text.takeWhile (· == 'u')
  let digits := ((text.dropWhile (· == 'u')).takeWhile (Text.isDigitIn 16)).take 4
  if marks ≠ [] ∧ digits.length = 4 then some (Text.numberOf 16 digits, marks.length + 4) else none

/-- Decodes the rest of a text: `odd` says whether an odd number of backslashes stands before it,
and its first `inside` characters belong to an escape that is decoded already. -/
def decodeFrom : (odd : Bool) → (inside : Nat) → Text → List Nat
  | _, _, [] => []
  | odd, inside + 1, c :: rest => decodeFrom (c == '\\' && !odd) inside rest
  | odd, 0, c :: rest =>
    if c == '\\' && !odd then
      match unitEscape? rest with
      | some (unit, length) => unit :: decodeFrom true length rest
      | none => Text.charUnits c ++ decodeFrom true 0 rest
    else Text.charUnits c ++ decodeFrom false 0 rest

/-- The code units of a text as a compiler sees them. -/
def decode (text : Text) : List Nat := decodeFrom false 0 text

/-- Whether a text neither closes nor opens a comment. -/
def Contained (text : Text) : Prop :=
  ¬ ['*'.toNat, '/'.toNat] <:+: decode text ∧ ¬ ['/'.toNat, '*'.toNat] <:+: decode text

instance (text : Text) : Decidable (Contained text) := inferInstanceAs (Decidable (_ ∧ _))

/-! ## Spellings -/

/-- The character of a comment delimiter. -/
def Delimiter.char : Delimiter → Char
  | slash => '/'
  | star => '*'

/-- The code unit of a delimiter character. -/
def Delimiter.unit (delimiter : Delimiter) : Nat := delimiter.char.toNat

/-- The last digits of the escapes of a delimiter character. -/
def Delimiter.lastDigits : Delimiter → List Char
  | slash => ['f', 'F']
  | star => ['a', 'A']

/-- The ways to write a delimiter character: as it is, or as an escape. -/
inductive Spelling (delimiter : Delimiter) : Text → Prop
  | char : Spelling delimiter [delimiter.char]
  | escape (marks : Nat) (last : Char) (marks_pos : 0 < marks)
      (last_mem : last ∈ delimiter.lastDigits) :
      Spelling delimiter ('\\' :: (List.replicate marks 'u' ++ ['0', '0', '2', last]))

/-- The ways to write two delimiter characters that close or open a comment. -/
inductive SpelledPair : Text → Prop
  | mk {first second : Delimiter} {left right : Text} (left_spells : Spelling first left)
      (right_spells : Spelling second right) (meets : first.meets second = true) :
      SpelledPair (left ++ right)

/-- Whether an odd number of backslashes stands at the end of a text. -/
def oddAfter (odd : Bool) (text : Text) : Bool :=
  text.foldl (fun odd c => c == '\\' && !odd) odd

/-- Whether a delimiter is spelled between two parts of a text, and is decoded there. -/
structure Occurs (text before pair after : Text) : Prop where
  split : text = before ++ (pair ++ after)
  spelled : SpelledPair pair
  active : pair.head? = some '\\' → oddAfter false before = false

/-! ## Escapes end where they end -/

/-- Whether a text cannot go on with an escape that stands before it. -/
def StopsEscape (text : Text) : Prop :=
  ∀ c, text.head? = some c → c ≠ 'u' ∧ Text.isDigitIn 16 c = false

variable {text rest before after : Text} {delimiter : Delimiter}

/-- The marks of an escape are all the same character. -/
theorem marks_eq_replicate (text : Text) :
    text.takeWhile (· == 'u') = List.replicate (text.takeWhile (· == 'u')).length 'u' := by
  apply List.eq_replicate_of_mem
  intro c hc
  simpa using List.mem_takeWhile_imp hc

/-- All marks of an escape are the letter `u`. -/
theorem isMark_of_mem (marks : Nat) : ∀ c ∈ List.replicate marks 'u', (c == 'u') = true := by
  intro c hc
  rw [List.eq_of_mem_replicate hc]
  rfl

/-- An escape is read in the same way before a text that cannot go on with it. -/
theorem unitEscape?_append (h : StopsEscape rest) (text : Text) :
    unitEscape? (text ++ rest) = unitEscape? text := by
  have hmark : ∀ c, rest.head? = some c → (c == 'u') = false := by
    intro c hc
    simp [(h c hc).1]
  have hdigit : ∀ c, rest.head? = some c → Text.isDigitIn 16 c = false := fun c hc => (h c hc).2
  unfold unitEscape?
  rw [Text.takeWhile_append_of_stop hmark, Text.dropWhile_append_of_stop hmark,
    Text.takeWhile_append_of_stop hdigit]

/-- An escape takes its characters from the text after its backslash. -/
theorem length_le_of_unitEscape? {unit length : Nat} (h : unitEscape? text = some (unit, length)) :
    length ≤ text.length := by
  unfold unitEscape? at h
  simp only at h
  split at h
  · next hcond =>
    cases h
    have hmarks : (text.takeWhile (· == 'u')).length + (text.dropWhile (· == 'u')).length =
        text.length := by rw [← List.length_append, List.takeWhile_append_dropWhile]
    have hdigits : 4 ≤ ((text.dropWhile (· == 'u')).takeWhile (Text.isDigitIn 16)).length := by
      have := hcond.2
      rw [List.length_take] at this
      omega
    have hrun :=
      (List.takeWhile_prefix (l := text.dropWhile (· == 'u')) (Text.isDigitIn 16)).length_le
    omega
  · exact absurd h (by simp)

theorem oddAfter_cons (odd : Bool) (c : Char) (rest : Text) :
    oddAfter odd (c :: rest) = oddAfter (c == '\\' && !odd) rest := rfl

/-- The backslashes at the end of two texts are counted through the first and then the second. -/
theorem oddAfter_append (odd : Bool) (first second : Text) :
    oddAfter odd (first ++ second) = oddAfter (oddAfter odd first) second :=
  List.foldl_append ..

/-- A text that does not go on with an escape is decoded by itself. -/
theorem decodeFrom_append (h : StopsEscape rest) (odd : Bool) {inside : Nat}
    (hinside : inside ≤ before.length) :
    decodeFrom odd inside (before ++ rest) =
      decodeFrom odd inside before ++ decodeFrom (oddAfter odd before) 0 rest := by
  induction before generalizing odd inside with
  | nil =>
    have hzero : inside = 0 := Nat.le_zero.mp hinside
    subst hzero
    rfl
  | cons c before ih =>
    rw [List.cons_append, oddAfter_cons]
    cases inside with
    | succ inside =>
      rw [decodeFrom, decodeFrom]
      exact ih _ (Nat.le_of_succ_le_succ hinside)
    | zero =>
      -- both sides find the same escape, because it does not reach beyond the first text
      rw [decodeFrom, decodeFrom, unitEscape?_append h]
      by_cases hstart : (c == '\\' && !odd) = true
      · rw [if_pos hstart, if_pos hstart, hstart]
        cases hescape : unitEscape? before with
        | none =>
          simp only
          rw [ih true (Nat.zero_le _), List.append_assoc]
        | some found =>
          obtain ⟨unit, length⟩ := found
          simp only
          rw [ih true (length_le_of_unitEscape? hescape), List.cons_append]
      · rw [if_neg hstart, if_neg hstart, Bool.eq_false_iff.mpr hstart, ih false (Nat.zero_le _),
          List.append_assoc]

/-- Decoding passes over the characters of an escape that is decoded already, and counts its
backslashes. -/
theorem decodeFrom_inside (odd : Bool) (text rest : Text) :
    decodeFrom odd text.length (text ++ rest) = decodeFrom (oddAfter odd text) 0 rest := by
  induction text generalizing odd with
  | nil => rfl
  | cons c text ih =>
    rw [List.length_cons, List.cons_append, decodeFrom, oddAfter_cons]
    exact ih _

/-! ## What a spelling is decoded to -/

theorem char_ne_backslash (delimiter : Delimiter) : delimiter.char ≠ '\\' := by
  cases delimiter <;> decide

/-- The last digit of an escaped delimiter is a hexadecimal digit, and with the digits before it
spells the unit of the delimiter. -/
theorem last_of_mem {last : Char} (h : last ∈ delimiter.lastDigits) :
    Text.isDigitIn 16 last = true ∧ last ≠ '\\' ∧
      Text.numberOf 16 ['0', '0', '2', last] = delimiter.unit := by
  cases delimiter <;>
    simp only [Delimiter.lastDigits, List.mem_cons, List.not_mem_nil, or_false] at h <;>
    rcases h with rfl | rfl <;> decide

/-- An escaped delimiter is read as the unit of the delimiter, with any number of marks. -/
theorem unitEscape?_of_spelled {marks : Nat} {last : Char} (hmarks : 0 < marks)
    (hlast : last ∈ delimiter.lastDigits) (rest : Text) :
    unitEscape? (List.replicate marks 'u' ++ ['0', '0', '2', last] ++ rest) =
      some (delimiter.unit, marks + 4) := by
  obtain ⟨hdigit, -, hnumber⟩ := last_of_mem hlast
  have hmark := isMark_of_mem marks
  have hdigits : (['0', '0', '2', last] ++ rest).takeWhile (Text.isDigitIn 16) =
      ['0', '0', '2', last] ++ rest.takeWhile (Text.isDigitIn 16) := by
    apply List.takeWhile_append_of_pos
    intro c hc
    simp only [List.mem_cons, List.not_mem_nil, or_false] at hc
    rcases hc with rfl | rfl | rfl | rfl
    · decide
    · decide
    · decide
    · exact hdigit
  -- the digits come right behind the marks
  have hrun : (['0', '0', '2', last] ++ rest).takeWhile (· == 'u') = [] := rfl
  have hdrop : (['0', '0', '2', last] ++ rest).dropWhile (· == 'u') =
      ['0', '0', '2', last] ++ rest := rfl
  have hne : List.replicate marks 'u' ≠ [] := by
    rw [Ne, List.replicate_eq_nil_iff]
    omega
  unfold unitEscape?
  rw [List.append_assoc, List.takeWhile_append_of_pos hmark, List.dropWhile_append_of_pos hmark,
    hrun, hdrop, hdigits]
  simp [hne, hnumber]

/-- A spelling whose backslash may start an escape is decoded to its delimiter. -/
theorem decodeFrom_of_spelling {spelled : Text} (h : Spelling delimiter spelled) {odd : Bool}
    (hactive : spelled.head? = some '\\' → odd = false) (rest : Text) :
    decodeFrom odd 0 (spelled ++ rest) = delimiter.unit :: decodeFrom false 0 rest := by
  cases h with
  | char =>
    have hchar : (delimiter.char == '\\' && !odd) = false := by simp [char_ne_backslash]
    rw [List.singleton_append, decodeFrom, if_neg (by simp [hchar])]
    cases delimiter <;> rfl
  | escape marks last marks_pos last_mem =>
    have hodd : odd = false := hactive rfl
    subst hodd
    have hlength : marks + 4 = (List.replicate marks 'u' ++ ['0', '0', '2', last]).length := by simp
    have hlast : oddAfter true (List.replicate marks 'u' ++ ['0', '0', '2', last]) = false := by
      have hsplit : List.replicate marks 'u' ++ ['0', '0', '2', last] =
          List.replicate marks 'u' ++ ['0', '0', '2'] ++ [last] := by simp
      rw [hsplit, oddAfter_append, oddAfter_cons]
      simp [oddAfter, (last_of_mem last_mem).2.1]
    rw [List.cons_append, decodeFrom, if_pos (by rfl), unitEscape?_of_spelled marks_pos last_mem]
    simp only
    rw [hlength, decodeFrom_inside, hlast]

/-- No escape goes on into a spelled delimiter. -/
theorem stopsEscape_of_spelling {spelled : Text} (h : Spelling delimiter spelled) (rest : Text) :
    StopsEscape (spelled ++ rest) := by
  intro c hc
  have hfirst : c = delimiter.char ∨ c = '\\' := by
    cases h with
    | char => exact Or.inl (Option.some_inj.mp hc).symm
    | escape marks last marks_pos last_mem => exact Or.inr (Option.some_inj.mp hc).symm
  rcases hfirst with rfl | rfl
  · cases delimiter <;> decide
  · decide

/-! ## What a delimiter is decoded from -/

/-- The value of a digit is its distance from `0`, or ten more than its distance from `a` or `A`. -/
theorem toNat_of_digitValue? {c : Char} {value : Nat} (h : Text.digitValue? c = some value) :
    c.toNat = 48 + value ∧ value < 10 ∨ c.toNat = 87 + value ∧ 10 ≤ value ∨
      c.toNat = 55 + value ∧ 10 ≤ value := by
  unfold Text.digitValue? at h
  split at h
  · next hdigit =>
    have hrange := Char.isDigit_iff_toNat.mp hdigit
    have hzero : '0'.toNat = 48 := rfl
    have hnine : '9'.toNat = 57 := rfl
    cases h
    omega
  split at h
  · next hlower =>
    simp only [Bool.and_eq_true, decide_eq_true_eq, Char.le_def, UInt32.le_iff_toNat_le] at hlower
    have hlow : 97 ≤ c.toNat := hlower.1
    have hten : 'a'.toNat = 97 := rfl
    cases h
    omega
  split at h
  · next hupper =>
    simp only [Bool.and_eq_true, decide_eq_true_eq, Char.le_def, UInt32.le_iff_toNat_le] at hupper
    have hlow : 65 ≤ c.toNat := hupper.1
    have hten : 'A'.toNat = 65 := rfl
    cases h
    omega
  · exact absurd h (by simp)

/-- Only letters have two cases. -/
theorem eq_of_digitValue? {x y : Char} {value : Nat} (hx : Text.digitValue? x = some value)
    (hy : Text.digitValue? y = some value) (hsmall : value < 10) : x = y := by
  apply Char.toNat_inj.mp
  have hcode := toNat_of_digitValue? hx
  have hcode' := toNat_of_digitValue? hy
  omega

/-- Four digits with the number of a delimiter character are those of its escapes. -/
theorem digits_of_number {a b c d : Char} (ha : Text.isDigitIn 16 a = true)
    (hb : Text.isDigitIn 16 b = true) (hc : Text.isDigitIn 16 c = true)
    (hd : Text.isDigitIn 16 d = true) (h : Text.numberOf 16 [a, b, c, d] = delimiter.unit) :
    a = '0' ∧ b = '0' ∧ c = '2' ∧ d ∈ delimiter.lastDigits := by
  simp only [Text.isDigitIn, Option.any_eq_true, decide_eq_true_eq] at ha hb hc hd
  obtain ⟨va, hva, hlta⟩ := ha
  obtain ⟨vb, hvb, hltb⟩ := hb
  obtain ⟨vc, hvc, hltc⟩ := hc
  obtain ⟨vd, hvd, hltd⟩ := hd
  simp only [Text.numberOf, List.foldl_cons, List.foldl_nil, hva, hvb, hvc, hvd,
    Option.getD_some] at h
  have hunit : delimiter.unit = 42 ∨ delimiter.unit = 47 := by cases delimiter <;> decide
  -- the number is too small for other digits in the first three places
  have hva0 : va = 0 := by omega
  have hvb0 : vb = 0 := by omega
  have hvc2 : vc = 2 := by omega
  subst hva0 hvb0 hvc2
  refine ⟨eq_of_digitValue? hva rfl (by decide), eq_of_digitValue? hvb rfl (by decide),
    eq_of_digitValue? hvc rfl (by decide), ?_⟩
  have hlast := toNat_of_digitValue? hvd
  cases delimiter with
  | slash =>
    have hunit : Delimiter.slash.unit = 47 := rfl
    have hcode : d.toNat = 'f'.toNat ∨ d.toNat = 'F'.toNat := by
      show d.toNat = 102 ∨ d.toNat = 70
      omega
    rcases hcode with hcode | hcode <;> simp [Delimiter.lastDigits, Char.toNat_inj.mp hcode]
  | star =>
    have hunit : Delimiter.star.unit = 42 := rfl
    have hcode : d.toNat = 'a'.toNat ∨ d.toNat = 'A'.toNat := by
      show d.toNat = 97 ∨ d.toNat = 65
      omega
    rcases hcode with hcode | hcode <;> simp [Delimiter.lastDigits, Char.toNat_inj.mp hcode]

/-- An escape that is decoded to a delimiter character is a spelling of it. -/
theorem spelling_of_unitEscape? {length : Nat}
    (h : unitEscape? text = some (delimiter.unit, length)) :
    ∃ spelled after, '\\' :: text = '\\' :: (spelled ++ after) ∧
      Spelling delimiter ('\\' :: spelled) ∧ spelled.length = length := by
  unfold unitEscape? at h
  simp only at h
  split at h
  · next hcond =>
    obtain ⟨hmarks, hfour⟩ := hcond
    simp only [Option.some.injEq, Prod.mk.injEq] at h
    obtain ⟨hnumber, hlength⟩ := h
    have hdigits : ∀ c ∈ ((text.dropWhile (· == 'u')).takeWhile (Text.isDigitIn 16)).take 4,
        Text.isDigitIn 16 c = true :=
      fun c hc => List.mem_takeWhile_imp (List.mem_of_mem_take hc)
    match hmatch : ((text.dropWhile (· == 'u')).takeWhile (Text.isDigitIn 16)).take 4, hfour with
    | [a, b, c, d], _ =>
      rw [hmatch] at hdigits hnumber
      obtain ⟨rfl, rfl, rfl, hlast⟩ := digits_of_number (hdigits a (by simp)) (hdigits b (by simp))
        (hdigits c (by simp)) (hdigits d (by simp)) hnumber
      -- the text is the run of marks, the four digits, and what comes after them
      let run := (text.dropWhile (· == 'u')).takeWhile (Text.isDigitIn 16)
      let after := run.drop 4 ++ (text.dropWhile (· == 'u')).dropWhile (Text.isDigitIn 16)
      let marks := (text.takeWhile (· == 'u')).length
      refine ⟨List.replicate marks 'u' ++ ['0', '0', '2', d], after, ?_,
        .escape marks d (List.length_pos_iff.mpr hmarks) hlast, ?_⟩
      · have htext : text = List.replicate marks 'u' ++ (['0', '0', '2', d] ++ after) :=
          calc text = text.takeWhile (· == 'u') ++ text.dropWhile (· == 'u') :=
                List.takeWhile_append_dropWhile.symm
            _ = List.replicate marks 'u' ++ (run ++ (text.dropWhile (· == 'u')).dropWhile
                (Text.isDigitIn 16)) := by
                rw [← marks_eq_replicate]
                exact congrArg _ List.takeWhile_append_dropWhile.symm
            _ = List.replicate marks 'u' ++ (['0', '0', '2', d] ++ after) := by
                rw [← hmatch, ← List.append_assoc (run.take 4), List.take_append_drop]
        rw [List.append_assoc, ← htext]
      · simpa using hlength
  · exact absurd h (by simp)

theorem charUnits_append_ne_nil (c : Char) (units : List Nat) : Text.charUnits c ++ units ≠ [] :=
  List.append_ne_nil_of_left_ne_nil (Text.isCharUnits_charUnits c).ne_nil units

/-- A delimiter character after a character is that character, or comes from what follows it. -/
theorem unit_of_charUnits {c : Char} {units tail more : List Nat}
    (h : Text.charUnits c ++ tail = units ++ delimiter.unit :: more) :
    units = [] ∧ c = delimiter.char ∧ tail = more ∨
      ∃ later, units = Text.charUnits c ++ later ∧ tail = later ++ delimiter.unit :: more := by
  have hlow : delimiter.unit < 0xD800 := by cases delimiter <;> decide
  have hchar := Text.isCharUnits_charUnits c
  generalize Text.charUnits c = first at h hchar ⊢
  cases hchar with
  | single =>
    cases units with
    | nil =>
      simp only [List.singleton_append, List.nil_append, List.cons.injEq] at h
      exact Or.inl ⟨rfl, Char.toNat_inj.mp h.1, h.2⟩
    | cons unit units =>
      simp only [List.cons_append, List.nil_append, List.cons.injEq] at h
      exact Or.inr ⟨units, by rw [h.1]; rfl, h.2⟩
  | pair hpair =>
    -- neither half of a surrogate pair is a delimiter character
    obtain ⟨⟨hhigh, -⟩, ⟨hlow', -⟩, -⟩ := hpair
    match units with
    | [] =>
      simp only [List.cons_append, List.nil_append, List.cons.injEq] at h
      omega
    | [unit] =>
      simp only [List.cons_append, List.nil_append, List.cons.injEq] at h
      omega
    | first :: second :: units =>
      simp only [List.cons_append, List.nil_append, List.cons.injEq] at h
      exact Or.inr ⟨units, by rw [h.1, h.2.1]; rfl, h.2.2⟩

/-- A delimiter character among the code units of a text is spelled by the text where it stands. -/
theorem spelling_of_decodeFrom {odd : Bool} {inside : Nat} {units more : List Nat}
    (h : decodeFrom odd inside text = units ++ delimiter.unit :: more) :
    ∃ before spelled after, text = before ++ (spelled ++ after) ∧ Spelling delimiter spelled ∧
      (spelled.head? = some '\\' → oddAfter odd before = false) ∧
      decodeFrom false 0 after = more ∧ (units = [] → inside = 0 → before = []) := by
  induction text generalizing odd inside units with
  | nil => exact absurd h (by simp [decodeFrom])
  | cons c rest ih =>
    -- what is found further on is found behind the first character
    have hlater : ∀ {inside' : Nat} {units' : List Nat}, (units ≠ [] ∨ inside ≠ 0) →
        decodeFrom (c == '\\' && !odd) inside' rest = units' ++ delimiter.unit :: more →
        ∃ before spelled after, c :: rest = before ++ (spelled ++ after) ∧
          Spelling delimiter spelled ∧ (spelled.head? = some '\\' → oddAfter odd before = false) ∧
          decodeFrom false 0 after = more ∧ (units = [] → inside = 0 → before = []) := by
      intro inside' units' hpast hrest
      obtain ⟨before, spelled, after, htext, hspelling, hactive, hmore, -⟩ := ih hrest
      refine ⟨c :: before, spelled, after, by rw [htext]; rfl, hspelling, hactive, hmore, ?_⟩
      intro hunits hinside
      rcases hpast with hpast | hpast
      · exact absurd hunits hpast
      · exact absurd hinside hpast
    cases inside with
    | succ inside =>
      rw [decodeFrom] at h
      exact hlater (Or.inr (Nat.succ_ne_zero inside)) h
    | zero =>
      have hstep := h
      rw [decodeFrom] at hstep
      by_cases hstart : (c == '\\' && !odd) = true
      · rw [if_pos hstart] at hstep
        rw [hstart] at hlater
        simp only [Bool.and_eq_true, beq_iff_eq, Bool.not_eq_true'] at hstart
        obtain ⟨rfl, rfl⟩ := hstart
        cases hescape : unitEscape? rest with
        | none =>
          simp only [hescape] at hstep
          rcases unit_of_charUnits hstep with ⟨-, hchar, -⟩ | ⟨later, hunits, htail⟩
          · exact absurd hchar.symm (char_ne_backslash delimiter)
          · exact hlater (Or.inl (hunits ▸ charUnits_append_ne_nil _ later)) htail
        | some found =>
          obtain ⟨unit, length⟩ := found
          simp only [hescape] at hstep
          cases units with
          | nil =>
            simp only [List.nil_append, List.cons.injEq] at hstep
            rw [hstep.1] at hescape
            obtain ⟨spelled, after, htext, hspelling, -⟩ := spelling_of_unitEscape? hescape
            refine ⟨[], '\\' :: spelled, after, htext, hspelling, fun _ => rfl, ?_, fun _ _ => rfl⟩
            rw [htext, ← List.cons_append, decodeFrom_of_spelling hspelling fun _ => rfl] at h
            exact (List.cons.inj h).2
          | cons first units =>
            simp only [List.cons_append, List.cons.injEq] at hstep
            exact hlater (Or.inl (List.cons_ne_nil first units)) hstep.2
      · rw [if_neg hstart] at hstep
        rw [Bool.eq_false_iff.mpr hstart] at hlater
        rcases unit_of_charUnits hstep with ⟨-, rfl, htail⟩ | ⟨later, hunits, htail⟩
        · refine ⟨[], [delimiter.char], rest, rfl, .char, ?_, htail, fun _ _ => rfl⟩
          intro hhead
          exact absurd (Option.some_inj.mp hhead) (char_ne_backslash delimiter)
        · exact hlater (Or.inl (hunits ▸ charUnits_append_ne_nil c later)) htail

/-! ## Contained texts -/

/-- Two delimiters meet when they are a star and a slash, in either order. -/
theorem meets_iff {first second : Delimiter} :
    first.meets second = true ↔
      [first.unit, second.unit] = ['*'.toNat, '/'.toNat] ∨
        [first.unit, second.unit] = ['/'.toNat, '*'.toNat] := by
  cases first <;> cases second <;> decide

/-- A text is not contained when two delimiters that meet stand next to each other in what it
decodes to. -/
theorem not_contained_iff :
    ¬ Contained text ↔ ∃ first second : Delimiter, first.meets second = true ∧
      [first.unit, second.unit] <:+: decode text := by
  rw [Contained, ← not_or, not_not]
  constructor
  · rintro (h | h)
    · exact ⟨.star, .slash, rfl, h⟩
    · exact ⟨.slash, .star, rfl, h⟩
  · rintro ⟨first, second, hmeets, hlies⟩
    rcases meets_iff.mp hmeets with hunits | hunits
    · exact Or.inl (hunits ▸ hlies)
    · exact Or.inr (hunits ▸ hlies)

/-- A text is contained exactly when no comment delimiter is spelled in it and decoded. -/
theorem contained_iff : Contained text ↔ ∀ before pair after, ¬ Occurs text before pair after := by
  rw [← not_iff_not, not_contained_iff]
  simp only [not_forall, not_not]
  constructor
  · rintro ⟨first, second, hmeets, units, more, hdecode⟩
    have hfirst : decodeFrom false 0 text = units ++ first.unit :: (second.unit :: more) := by
      rw [decode] at hdecode
      rw [← hdecode, List.append_assoc]
      rfl
    obtain ⟨before, left, after, rfl, hleft, hactive, hmore, -⟩ := spelling_of_decodeFrom hfirst
    -- the second character is the first that is decoded from the rest, so it stands at its start
    have hsecond : decodeFrom false 0 after = [] ++ second.unit :: more := hmore
    obtain ⟨between, right, rest, rfl, hright, -, -, hnil⟩ := spelling_of_decodeFrom hsecond
    obtain rfl := hnil rfl rfl
    refine ⟨before, left ++ right, rest, by simp, .mk hleft hright hmeets, ?_⟩
    intro hhead
    apply hactive
    cases hleft <;> exact hhead
  · rintro ⟨before, pair, after, rfl, hspelled, hactive⟩
    obtain @⟨first, second, left, right, hleft, hright, hmeets⟩ := hspelled
    refine ⟨first, second, hmeets, decodeFrom false 0 before, decodeFrom false 0 after, ?_⟩
    have hstops : StopsEscape (left ++ right ++ after) := by
      rw [List.append_assoc]
      exact stopsEscape_of_spelling hleft _
    have hactive' : left.head? = some '\\' → oddAfter false before = false := by
      intro hhead
      apply hactive
      cases hleft <;> exact hhead
    rw [decode, decodeFrom_append hstops false (Nat.zero_le _), List.append_assoc left,
      decodeFrom_of_spelling hleft hactive', decodeFrom_of_spelling hright fun _ => rfl]
    simp

end JvmSource.DocComment
