import Mathlib.Tactic.Common
import JvmSource.Pattern.Reader
import JvmSource.Proofs.Pattern.Input

/-!
# Items before a closing

Numbers, bounds of repetitions and escapes. Each is read without regard to a closing that is left
behind it. The one exception is `\b{` at the end of an input, which starts with a word boundary
before the closing and is refused without it (`readBoundary?_closed`).
-/

namespace JvmSource.Pattern

open Input

variable {input after : Input} {part : Expr}

/-! ## Numbers and code points -/

/-- What is left behind a number is a suffix of the input. -/
theorem readDecimal?_suffix {value : Nat} (h : readDecimal? input = some (value, after)) :
    after.rest <:+ input.rest := by
  simp only [readDecimal?] at h
  split at h
  · cases h
  · split at h
    · cases h
      exact (dropBlanks_suffix _).trans
        ((readWhile_suffix _ _ _).trans (dropBlanks_suffix input))
    · cases h

/-- A number that leaves all of the closing is read without it as well. -/
theorem readDecimal?_closed {value : Nat} (h : readDecimal? input.closed = some (value, after))
    (hlong : 2 ≤ after.rest.length) :
    ∃ left : Input, after = left.closed ∧ readDecimal? input = some (value, left) := by
  simp only [readDecimal?, dropBlanks_closed] at h ⊢
  split at h
  · cases h
  · next hdigits =>
    split at h
    · next hvalue =>
      cases h
      have hmid := Nat.le_trans hlong (dropBlanks_suffix _).length_le
      obtain ⟨left, hleft, hread⟩ := readWhile_all_closed rfl hmid
      refine ⟨left.dropBlanks, ?_, ?_⟩
      · rw [hleft, dropBlanks_closed]
      · rw [hread, if_neg hdigits, if_pos hvalue]
    · cases h

/-- What is left behind a code point is a suffix of the input. -/
theorem readCodePoint?_suffix {width : Nat} {c : Char}
    (h : readCodePoint? width input = some (c, after)) : after.rest <:+ input.rest := by
  simp only [readCodePoint?] at h
  split at h
  · split at h
    · split at h
      · cases h
      · obtain ⟨c, -, h⟩ := Option.bind_eq_some_iff.mp h
        cases h
        exact (next_suffix_rest _).trans ((readWhile_suffix _ _ _).trans (next_suffix_rest input))
    · cases h
  · split at h
    · obtain ⟨c, -, h⟩ := Option.bind_eq_some_iff.mp h
      cases h
      exact readWhile_suffix _ _ _
    · cases h

/-- A code point that leaves all of the closing is read without it as well. -/
theorem readCodePoint?_closed {width : Nat} {c : Char}
    (h : readCodePoint? width input.closed = some (c, after)) (hlong : 2 ≤ after.rest.length) :
    ∃ left : Input, after = left.closed ∧ readCodePoint? width input = some (c, left) := by
  simp only [readCodePoint?] at h ⊢
  split at h
  · next htext =>
    -- digits in braces, of which neither is of the closing
    obtain ⟨rest, hrest, -⟩ := rest_of_closed htext (by decide)
    split at h
    · next hbrace =>
      split at h
      · cases h
      · next hdigits =>
        obtain ⟨c, hc, h⟩ := Option.bind_eq_some_iff.mp h
        cases h
        have hmid := Nat.le_trans hlong (next_suffix_rest _).length_le
        have hnext := next_closed hrest (Nat.le_trans hmid (readWhile_suffix _ _ _).length_le)
        rw [hnext] at hdigits hc hmid hbrace hlong ⊢
        obtain ⟨left, hleft, hread⟩ := readWhile_all_closed rfl hmid
        rw [hleft] at hbrace hlong ⊢
        obtain ⟨more, hmore, -⟩ := rest_of_closed hbrace (by decide)
        refine ⟨left.next, next_closed hmore hlong, ?_⟩
        simp only [hrest, hread, hmore]
        rw [if_neg hdigits, hc]
        rfl
    · cases h
  · next hbrace =>
    split at h
    · next hwidth =>
      obtain ⟨c, hc, h⟩ := Option.bind_eq_some_iff.mp h
      cases h
      obtain ⟨left, hleft, hread⟩ := readWhile_closed (Nat.le_refl width) (Nat.min_le_left _ _) rfl
        hlong
      refine ⟨left, hleft, ?_⟩
      split
      · next hrest => exact (hbrace _ (by rw [closed_rest, hrest]; rfl)).elim
      · rw [hread, if_pos hwidth, hc]
        rfl
    · cases h

/-! ## Bounds -/

theorem dropLazy_suffix (input : Input) : (dropLazy input).rest <:+ input.rest := by
  rw [dropLazy]
  split
  · exact drop_suffix input 1
  · exact List.suffix_rfl

/-- The closing is no mark of lazy repetition. -/
theorem dropLazy_closed : dropLazy input.closed = (dropLazy input).closed := by
  cases hrest : input.rest with
  | nil => simp [dropLazy, closing, hrest]
  | cons c rest =>
    have hdrop := drop_one_closed hrest
    simp only [dropLazy, closed_rest, hrest, List.cons_append, List.head?_cons]
    split
    · exact hdrop
    · rfl

/-- The forms of the bounds of a repetition: one number, a number and a comma, or two numbers. -/
inductive ReadsBounds (input : Input) : Nat → Option Nat → Input → Prop where
  | times {least mid rest} (hleast : readDecimal? input.next = some (least, mid))
      (hend : mid.rest = '}' :: rest) :
      ReadsBounds input least (some least) (dropLazy mid.next)
  | atLeast {least mid rest rest'} (hleast : readDecimal? input.next = some (least, mid))
      (hcomma : mid.rest = ',' :: rest) (hend : mid.next.rest = '}' :: rest') :
      ReadsBounds input least none (dropLazy mid.next.next)
  | between {least most mid last rest rest'} (hleast : readDecimal? input.next = some (least, mid))
      (hcomma : mid.rest = ',' :: rest) (hmost : readDecimal? mid.next = some (most, last))
      (hend : last.rest = '}' :: rest') (hle : least ≤ most) :
      ReadsBounds input least (some most) (dropLazy last.next)

/-- No number starts with a character that is neither a blank nor a digit. -/
theorem readDecimal?_eq_none {c : Char} (hrest : ∀ first ∈ input.rest.head?, first = c)
    (hblank : Unicode.isBlank c = false) (hdigit : c.isDigit = false) :
    readDecimal? input = none := by
  have hdigits : (input.dropBlanks.readWhile Char.isDigit input.dropBlanks.rest.length).1 = [] := by
    cases hchars : input.rest with
    | nil =>
      have hnil : input.dropBlanks.rest = [] := by rw [dropBlanks, hchars]; rfl
      rw [readWhile_nil hnil]
    | cons first rest =>
      obtain rfl : first = c := hrest first (by rw [hchars]; rfl)
      have hcons : input.dropBlanks.rest = first :: rest := by
        rw [dropBlanks, hchars]
        exact List.dropWhile_cons_of_neg (by simp [hblank])
      rw [hcons, List.length_cons, readWhile_cons hcons, hdigit]
      rfl
  simp [readDecimal?, hdigits]

/-- Bounds are read exactly by the rules. -/
theorem readBounds?_eq_some_iff {least : Nat} {most : Option Nat} :
    readBounds? input = some (least, most, after) ↔ ReadsBounds input least most after := by
  constructor
  · intro h
    simp only [readBounds?] at h
    split at h
    · cases h
    · obtain ⟨⟨least, mid⟩, hleast, h⟩ := Option.bind_eq_some_iff.mp h
      simp only at h
      split at h
      · next hend =>
        cases h
        exact .times hleast hend
      · next hcomma =>
        split at h
        · next hend =>
          cases h
          exact .atLeast hleast hcomma hend
        · obtain ⟨⟨most, last⟩, hmost, h⟩ := Option.bind_eq_some_iff.mp h
          simp only at h
          split at h
          · cases h
          · next hgood =>
            cases h
            simp only [Bool.or_eq_true, bne_iff_ne, ne_eq, decide_eq_true_eq, not_or, not_not,
              Nat.not_lt] at hgood
            obtain ⟨rest, hend⟩ := List.head?_eq_some_iff.mp hgood.1
            exact .between hleast hcomma hmost hend hgood.2
      · cases h
  · intro h
    -- a number is read, so there is something to read it from
    have hnonempty : ∀ {least mid}, readDecimal? input.next = some (least, mid) →
        ¬ input.next.rest.isEmpty = true := by
      intro least mid hleast hempty
      rw [readDecimal?_eq_none (c := '}') (by simp [List.isEmpty_iff.mp hempty]) (by decide)
        (by decide)] at hleast
      cases hleast
    cases h with
    | times hleast hend =>
      simp only [readBounds?, if_neg (hnonempty hleast), hleast, Option.bind_eq_bind,
        Option.bind_some, hend]
      rfl
    | atLeast hleast hcomma hend =>
      simp only [readBounds?, if_neg (hnonempty hleast), hleast, Option.bind_eq_bind,
        Option.bind_some, hcomma, hend]
      rfl
    | between hleast hcomma hmost hend hle =>
      simp only [readBounds?, if_neg (hnonempty hleast), hleast, Option.bind_eq_bind,
        Option.bind_some, hcomma]
      split
      · next hbrace =>
        -- a brace behind the comma would leave no number for the upper bound
        rw [readDecimal?_eq_none (c := '}') (by simp [hbrace]) (by decide) (by decide)] at hmost
        cases hmost
      · simp [hmost, hend, Nat.not_lt.mpr hle]

/-- Reading bounds takes one character at least. -/
theorem ReadsBounds.suffix {least : Nat} {most : Option Nat} (h : ReadsBounds input least most after) :
    after.rest <:+ input.rest.tail := by
  cases h with
  | times hleast hend =>
    exact (dropLazy_suffix _).trans ((next_suffix_rest _).trans
      ((readDecimal?_suffix hleast).trans (next_suffix input)))
  | atLeast hleast hcomma hend =>
    exact (dropLazy_suffix _).trans ((next_suffix_rest _).trans ((next_suffix_rest _).trans
      ((readDecimal?_suffix hleast).trans (next_suffix input))))
  | between hleast hcomma hmost hend hle =>
    exact (dropLazy_suffix _).trans ((next_suffix_rest _).trans ((readDecimal?_suffix hmost).trans
      ((next_suffix_rest _).trans ((readDecimal?_suffix hleast).trans (next_suffix input)))))

/-- The limit of a repetition is not below its least number. -/
theorem ReadsBounds.ordered {least : Nat} {most : Option Nat}
    (h : ReadsBounds input least most after) : ∀ limit ∈ most, least ≤ limit := by
  intro limit hlimit
  cases h with
  | times => exact Nat.le_of_eq (Option.some.inj hlimit)
  | atLeast => cases hlimit
  | between _ _ _ _ hle => exact Nat.le_trans hle (Nat.le_of_eq (Option.some.inj hlimit))

/-- A step behind a character of the input that leaves all of the closing. -/
theorem next_of_closed {c : Char} {text : Text} (htext : input.closed.rest = c :: text)
    (hc : c ≠ ')') (hlong : 2 ≤ input.closed.next.rest.length) :
    ∃ rest, input.rest = c :: rest ∧ input.closed.next = input.next.closed := by
  obtain ⟨rest, hrest, -⟩ := rest_of_closed htext hc
  exact ⟨rest, hrest, next_closed hrest hlong⟩

/-- Bounds that leave all of the closing are read without it as well. -/
theorem ReadsBounds.closed {least : Nat} {most : Option Nat}
    (h : ReadsBounds input.closed least most after) (hlong : 2 ≤ after.rest.length) :
    ∃ left : Input, after = left.closed ∧ ReadsBounds input least most left := by
  obtain ⟨c, rest, hrest⟩ := exists_cons h.suffix hlong
  -- all forms start with a number
  have hfirst : ∀ {least mid}, readDecimal? input.closed.next = some (least, mid) →
      2 ≤ mid.rest.length →
      ∃ left : Input, mid = left.closed ∧ readDecimal? input.next = some (least, left) := by
    intro least mid hleast hmid
    rw [next_closed hrest (Nat.le_trans hmid (readDecimal?_suffix hleast).length_le)] at hleast
    exact readDecimal?_closed hleast hmid
  cases h with
  | times hleast hend =>
    have hnext := Nat.le_trans hlong (dropLazy_suffix _).length_le
    obtain ⟨left, rfl, hleft⟩ := hfirst hleast (Nat.le_trans hnext (next_suffix_rest _).length_le)
    obtain ⟨rest, hend', hstep⟩ := next_of_closed hend (by decide) hnext
    exact ⟨dropLazy left.next, by rw [hstep, dropLazy_closed], .times hleft hend'⟩
  | atLeast hleast hcomma hend =>
    have hlast := Nat.le_trans hlong (dropLazy_suffix _).length_le
    have hnext := Nat.le_trans hlast (next_suffix_rest _).length_le
    obtain ⟨left, rfl, hleft⟩ := hfirst hleast (Nat.le_trans hnext (next_suffix_rest _).length_le)
    obtain ⟨rest, hcomma', hstep⟩ := next_of_closed hcomma (by decide) hnext
    rw [hstep] at hend hlast ⊢
    obtain ⟨rest', hend', hstep'⟩ := next_of_closed hend (by decide) hlast
    exact ⟨dropLazy left.next.next, by rw [hstep', dropLazy_closed], .atLeast hleft hcomma' hend'⟩
  | between hleast hcomma hmost hend hle =>
    have hlast := Nat.le_trans hlong (dropLazy_suffix _).length_le
    have hmid := Nat.le_trans hlast (next_suffix_rest _).length_le
    have hnext := Nat.le_trans hmid (readDecimal?_suffix hmost).length_le
    obtain ⟨left, rfl, hleft⟩ := hfirst hleast (Nat.le_trans hnext (next_suffix_rest _).length_le)
    obtain ⟨rest, hcomma', hstep⟩ := next_of_closed hcomma (by decide) hnext
    rw [hstep] at hmost
    obtain ⟨last, rfl, hmost'⟩ := readDecimal?_closed hmost hmid
    obtain ⟨rest', hend', hstep'⟩ := next_of_closed hend (by decide) hlast
    exact ⟨dropLazy last.next, by rw [hstep', dropLazy_closed],
      .between hleft hcomma' hmost' hend' hle⟩

/-- Between an opening brace and the closing there are no bounds. -/
theorem not_readsBounds_closed {least : Nat} {most : Option Nat} {rest : Text}
    (hrest : input.rest = '{' :: rest) (hnext : input.next.rest = []) :
    ¬ ReadsBounds input.closed least most after := by
  have hnone : readDecimal? input.closed.next = none := by
    refine readDecimal?_eq_none (c := ')') ?_ (by decide) (by decide)
    rcases next_closed_or hrest with h | h
    · rw [h, closed_rest, hnext]
      simp [closing]
    · simp [h]
  intro h
  cases h with
  | times hleast | atLeast hleast | between hleast =>
    rw [hnone] at hleast
    cases hleast

/-! ## Escapes -/

theorem readBoundary?_suffix (h : readBoundary? input = some (part, after)) :
    after.rest <:+ input.rest := by
  have hname : ∀ test bound, (((input.next).readWhile test bound).2.drop 1).rest <:+ input.rest :=
    fun test bound => (drop_suffix _ 1).trans
      ((readWhile_suffix test bound _).trans (next_suffix_rest input))
  simp only [readBoundary?] at h
  split at h
  · split at h
    · cases h
    · split at h
      · cases h
        exact List.suffix_rfl
      · split at h
        · cases h
        · repeat' split at h
          all_goals cases h
          all_goals exact hname _ _
  · cases h
    exact List.suffix_rfl

/-- One reading differs by the closing: a brace that nothing follows is left for a repetition
before the closing, although it is no repetition there either. -/
theorem readBoundary?_closed (h : readBoundary? input.closed = some (part, after))
    (hlong : 2 ≤ after.rest.length) :
    ∃ left : Input, after = left.closed ∧ (readBoundary? input = some (part, left) ∨
      part = .assertion .wordBoundary ∧ (∃ rest, left.rest = '{' :: rest) ∧
        left.next.rest = []) := by
  simp only [readBoundary?] at h ⊢
  split at h
  · next htext =>
    obtain ⟨rest, hrest, -⟩ := rest_of_closed htext (by decide)
    have hnext : input.closed.next = input.next.closed := by
      refine (next_closed_or hrest).resolve_right fun hnil => ?_
      rw [hnil] at h
      cases h
    rw [hnext] at h
    simp only [hrest]
    cases hinside : input.next.rest with
    | nil =>
      -- the brace is the last character, and no name can start with what the closing puts behind it
      simp only [closed_rest, hinside] at h
      cases h
      exact ⟨input, rfl, Or.inr ⟨rfl, ⟨rest, hrest⟩, hinside⟩⟩
    | cons c inside =>
      simp only [closed_rest, hinside, List.cons_append] at h ⊢
      split at h
      · next hc =>
        cases h
        exact ⟨input, rfl, Or.inl (by rw [if_pos hc])⟩
      · next hc =>
        have hlength : (c :: (inside ++ closing)).length = input.next.closed.rest.length := by
          rw [closed_rest, hinside]
          rfl
        have hlength' : (c :: inside).length = input.next.rest.length := by rw [hinside]
        rw [hlength] at h
        rw [if_neg hc, hlength']
        obtain ⟨name, mid, hname⟩ : ∃ name mid, input.next.closed.readWhile
            (fun c => c.isAlpha || c == '-') input.next.closed.rest.length = (name, mid) :=
          ⟨_, _, rfl⟩
        rw [hname] at h
        -- whatever the name, one character is read behind it
        have hafter : after = mid.drop 1 := by
          repeat' split at h
          all_goals cases h
          all_goals rfl
        have hmid : 2 ≤ mid.rest.length := by
          rw [hafter] at hlong
          exact Nat.le_trans hlong (drop_suffix _ 1).length_le
        obtain ⟨left, rfl, hread⟩ := readWhile_all_closed hname hmid
        cases hleft : left.rest with
        | nil =>
          rw [closed_rest, hleft] at h
          cases h
        | cons brace rest =>
          refine ⟨left.drop 1, hafter.trans (drop_one_closed hleft), Or.inl ?_⟩
          simp only [closed_rest, hleft, List.cons_append, List.head?_cons] at h
          simp only [hread, hleft, List.head?_cons]
          repeat' split at h
          all_goals cases h
          all_goals simp [*]
  · next hbrace =>
    cases h
    refine ⟨input, rfl, Or.inl ?_⟩
    split
    · next hrest => exact (hbrace _ (by rw [closed_rest, hrest]; rfl)).elim
    · rfl

/-- Reading the name of a property takes one character at least. -/
theorem readProperty?_suffix {negated : Bool} (h : readProperty? negated input = some (part, after)) :
    after.rest <:+ input.rest.tail := by
  simp only [readProperty?] at h
  split at h
  · cases h
  · cases h
  · split at h
    · cases h
      exact (drop_suffix _ 1).trans ((readWhile_suffix _ _ _).trans (next_suffix input))
    · cases h
  · cases h
    exact next_suffix input

/-- The name of a property that leaves all of the closing is read without it as well. -/
theorem readProperty?_closed {negated : Bool}
    (h : readProperty? negated input.closed = some (part, after)) (hlong : 2 ≤ after.rest.length) :
    ∃ left : Input, after = left.closed ∧ readProperty? negated input = some (part, left) := by
  obtain ⟨c, rest, hrest⟩ := exists_cons (readProperty?_suffix h) hlong
  simp only [readProperty?, closed_rest, hrest, List.cons_append] at h ⊢
  split at h
  · cases h
  · cases h
  · next hc =>
    obtain ⟨rfl, -⟩ := List.cons.inj hc
    split at h
    · next hbrace =>
      cases h
      have hmid := Nat.le_trans hlong (drop_suffix _ 1).length_le
      have hnext := next_closed hrest (Nat.le_trans hmid (readWhile_suffix _ _ _).length_le)
      rw [hnext] at hmid hbrace hlong ⊢
      -- the name ends at its brace, before the closing
      obtain ⟨left, hleft, hread⟩ := readWhile_all_closed rfl hmid
      rw [hleft] at hbrace ⊢
      obtain ⟨more, hmore, -⟩ := rest_of_closed hbrace (by decide)
      refine ⟨left.drop 1, drop_one_closed hmore, ?_⟩
      simp only [hread, hmore]
    · cases h
  · next hback hbrace hc =>
    obtain ⟨rfl, rfl⟩ := List.cons.inj hc
    cases h
    refine ⟨input.next, next_closed hrest hlong, ?_⟩
    split
    · next heq => cases heq
    · next heq => cases heq; exact (hback rfl).elim
    · next heq => cases heq; exact (hbrace rfl).elim
    · next heq => cases heq; rfl

/-- What an escape of one character stands for. -/
def escaped? (c : Char) : Option Expr := (readEscape? ⟨false, [], [c]⟩).map (·.1)

/-- Letters after which an escape may go on. -/
def escapeLeads : List Char := ['x', 'u', 'U', 'p', 'P', 'b']

/-- A character that no longer escape begins with is an escape by itself. -/
theorem readEscape?_of_not_mem {c : Char} {rest : Text} (hrest : input.rest = c :: rest)
    (hc : c ∉ escapeLeads) :
    readEscape? input = (escaped? c).map fun part => (part, input.drop 1) := by
  simp only [escaped?, readEscape?, hrest]
  split
  case h_1 hnil => cases hnil
  all_goals
    rename_i hcons
    obtain ⟨rfl, rfl⟩ := List.cons.inj hcons
    first
      | rfl
      | exact absurd (by decide) hc
      | simp only [*]; split <;> rfl

/-- How an escape goes on after its first character, which alone decides it. -/
inductive EscapeKind (c : Char) : Prop where
  | code (width : Nat)
      (h : ∀ (input : Input) rest, input.rest = c :: rest →
        readEscape? input = (readCodePoint? width input.next).map fun read =>
          (.literal ⟨read.1, width == 2 && input.next.rest.head? != some '{'⟩, read.2))
  | property (negated : Bool)
      (h : ∀ (input : Input) rest, input.rest = c :: rest →
        readEscape? input = readProperty? negated input.next)
  | boundary
      (h : ∀ (input : Input) rest, input.rest = c :: rest →
        readEscape? input = readBoundary? (input.drop 1))
  | single (part? : Option Expr)
      (h : ∀ (input : Input) rest, input.rest = c :: rest →
        readEscape? input = part?.map fun part => (part, input.drop 1))

/-- Every character belongs to one kind of escape. -/
theorem escapeKind (c : Char) : EscapeKind c := by
  by_cases hc : c ∈ escapeLeads
  · simp only [escapeLeads, List.mem_cons, List.not_mem_nil, or_false] at hc
    rcases hc with rfl | rfl | rfl | rfl | rfl | rfl
    · refine .code 2 fun input rest hrest => ?_
      simp only [readEscape?, hrest, Option.map_eq_bind]
      rfl
    · refine .code 4 fun input rest hrest => ?_
      simp only [readEscape?, hrest, Option.map_eq_bind]
      rfl
    · refine .code 8 fun input rest hrest => ?_
      simp only [readEscape?, hrest, Option.map_eq_bind]
      rfl
    · exact .property false fun input rest hrest => by simp only [readEscape?, hrest]
    · exact .property true fun input rest hrest => by simp only [readEscape?, hrest]
    · exact .boundary fun input rest hrest => by simp only [readEscape?, hrest]
  · exact .single (escaped? c) fun input rest hrest => readEscape?_of_not_mem hrest hc

/-- Reading an escape takes one character at least. -/
theorem readEscape?_suffix (h : readEscape? input = some (part, after)) :
    after.rest <:+ input.rest.tail := by
  have hdrop := drop_one_suffix input
  cases hrest : input.rest with
  | nil =>
    rw [readEscape?, hrest] at h
    cases h
  | cons c rest =>
    rw [← hrest]
    cases escapeKind c with
    | code width heq =>
      rw [heq input rest hrest] at h
      obtain ⟨⟨c, mid⟩, hread, h⟩ := Option.map_eq_some_iff.mp h
      cases h
      exact (readCodePoint?_suffix hread).trans (next_suffix input)
    | property negated heq =>
      rw [heq input rest hrest] at h
      exact (readProperty?_suffix h).trans ((List.tail_suffix _).trans (next_suffix input))
    | boundary heq =>
      rw [heq input rest hrest] at h
      exact (readBoundary?_suffix h).trans hdrop
    | single part? heq =>
      rw [heq input rest hrest] at h
      obtain ⟨part, -, h⟩ := Option.map_eq_some_iff.mp h
      cases h
      exact hdrop

/-- An escape that leaves all of the closing is read without it as well, or it is a word boundary
that leaves a brace with nothing behind it. -/
theorem readEscape?_closed (h : readEscape? input.closed = some (part, after))
    (hlong : 2 ≤ after.rest.length) :
    ∃ left : Input, after = left.closed ∧ (readEscape? input = some (part, left) ∨
      part = .assertion .wordBoundary ∧ (∃ rest, left.rest = '{' :: rest) ∧
        left.next.rest = []) := by
  obtain ⟨c, rest, hrest⟩ := exists_cons (readEscape?_suffix h) hlong
  have hclosed : input.closed.rest = c :: (rest ++ closing) := by rw [closed_rest, hrest]; rfl
  cases escapeKind c with
  | code width heq =>
    rw [heq input.closed _ hclosed] at h
    rw [heq input rest hrest]
    obtain ⟨⟨c, mid⟩, hread, h⟩ := Option.map_eq_some_iff.mp h
    cases h
    have hmid := (readCodePoint?_suffix hread).length_le
    rw [next_closed hrest (Nat.le_trans hlong hmid)] at hread ⊢
    obtain ⟨left, hleft, hread'⟩ := readCodePoint?_closed hread hlong
    refine ⟨left, hleft, Or.inl ?_⟩
    -- whether an open brace comes next is the same with the closing, which starts with none
    have hhead : (input.next.closed.rest.head? != some '{') =
        (input.next.rest.head? != some '{') := by
      rw [closed_rest, head?_append_closing]
      cases input.next.rest <;> rfl
    rw [hread', hhead]
    rfl
  | property negated heq =>
    rw [heq input.closed _ hclosed] at h
    rw [heq input rest hrest]
    have hsuffix := (readProperty?_suffix h).trans (List.tail_suffix _)
    rw [next_closed hrest (Nat.le_trans hlong hsuffix.length_le)] at h
    obtain ⟨left, hleft, hread⟩ := readProperty?_closed h hlong
    exact ⟨left, hleft, Or.inl hread⟩
  | boundary heq =>
    rw [heq input.closed _ hclosed, drop_one_closed hrest] at h
    rw [heq input rest hrest]
    exact readBoundary?_closed h hlong
  | single part? heq =>
    rw [heq input.closed _ hclosed, drop_one_closed hrest] at h
    rw [heq input rest hrest]
    obtain ⟨part, hpart, h⟩ := Option.map_eq_some_iff.mp h
    cases h
    exact ⟨input.drop 1, rfl, Or.inl (by rw [hpart]; rfl)⟩

end JvmSource.Pattern
