import Mathlib.Data.Nat.Bitwise
import Mathlib.Tactic.Common
import JvmSource.Pattern.Search
import JvmSource.Proofs.Pattern.Stretch

/-!
# Searching finds what patterns match

A search follows sets of positions through a pattern, and the positions that it reaches are those
where a match ends (`testBit_run_iff`). Repetition is followed for a limited number of rounds only.
That is enough because positions never go back: of more matches in a row than there are positions
one takes no room, so it can be left out or repeated (`inRow_succ_iff`).
-/

namespace JvmSource.Pattern

/-- Whether no repetition in a pattern has a limit below its least number. -/
def IsOrdered : Pattern → Prop
  | sequence first second => first.IsOrdered ∧ second.IsOrdered
  | either left right => left.IsOrdered ∧ right.IsOrdered
  | repeated least most body => (∀ limit ∈ most, least ≤ limit) ∧ body.IsOrdered
  | group _ body => body.IsOrdered
  | _ => True

/-- `InRow text p n i j`: pattern `p` matches `n` times in a row between `i` and `j`. -/
def InRow (text : Text) (p : Pattern) : Nat → Nat → Nat → Prop
  | 0, i, j => i = j ∧ i ≤ text.length
  | n + 1, i, k => ∃ j, Matches text p i j ∧ InRow text p n j k

/-- Whether all members of a set of positions are positions of a text. -/
def Within (text : Text) (positions : Nat) : Prop :=
  ∀ i, positions.testBit i = true → i ≤ text.length

/-- Whether a function takes the positions where a pattern may start to those where it may end. -/
def Follows (text : Text) (p : Pattern) (f : Nat → Nat) : Prop :=
  ∀ starts, Within text starts → ∀ j,
    (f starts).testBit j = true ↔ ∃ i, starts.testBit i = true ∧ Matches text p i j

/-- How many matches more than the least number a search follows on a text of `size` characters. -/
def extraRounds (size least : Nat) : (most : Option Nat) → Nat
  | none => size + 1
  | some most => min (most - least) (size + 1)

variable {text : Text} {p : Pattern} {f : Nat → Nat} {n m i j k : Nat} {least : Nat}
  {most : Option Nat}

/-! ## Matches in a row -/

/-- Matches in a row go forward, and stay within the text. -/
theorem InRow.bounds (h : InRow text p n i k) : i ≤ k ∧ k ≤ text.length := by
  induction n generalizing i with
  | zero =>
    obtain ⟨rfl, hbound⟩ := h
    exact ⟨Nat.le_refl i, hbound⟩
  | succ n ih =>
    obtain ⟨j, hfirst, hrest⟩ := h
    exact ⟨Nat.le_trans hfirst.bounds.1 (ih hrest).1, (ih hrest).2⟩

/-- Matches in a row can be split at any number. -/
theorem inRow_add_iff :
    InRow text p (n + m) i k ↔ ∃ j, InRow text p n i j ∧ InRow text p m j k := by
  induction n generalizing i with
  | zero =>
    rw [Nat.zero_add]
    constructor
    · intro h
      exact ⟨i, ⟨rfl, Nat.le_trans h.bounds.1 h.bounds.2⟩, h⟩
    · rintro ⟨j, ⟨rfl, -⟩, h⟩
      exact h
  | succ n ih =>
    rw [Nat.add_right_comm]
    constructor
    · rintro ⟨j, hfirst, hrest⟩
      obtain ⟨j', hmiddle, hlast⟩ := ih.mp hrest
      exact ⟨j', ⟨j, hfirst, hmiddle⟩, hlast⟩
    · rintro ⟨j', ⟨j, hfirst, hmiddle⟩, hlast⟩
      exact ⟨j, hfirst, ih.mpr ⟨j', hmiddle, hlast⟩⟩

theorem inRow_one_iff : InRow text p 1 i j ↔ Matches text p i j := by
  constructor
  · rintro ⟨j', hmatches, rfl, -⟩
    exact hmatches
  · intro h
    exact ⟨j, h, rfl, h.bounds.2⟩

/-- More matches than the distance allows have one among them that takes no room. -/
theorem inRow_succ_iff (h : k < i + n) : InRow text p (n + 1) i k ↔ InRow text p n i k := by
  -- if the first match takes room, the others have less room and are one fewer
  induction n generalizing i with
  | zero =>
    refine iff_of_false (fun hrow => ?_) fun hrow => ?_
    · exact absurd hrow.bounds.1 (by omega)
    · exact absurd hrow.bounds.1 (by omega)
  | succ n ih =>
    constructor
    · rintro ⟨j, hfirst, hrest⟩
      by_cases hstays : j = i
      · rwa [← hstays]
      · have hlow := hfirst.bounds.1
        exact ⟨j, hfirst, (ih (by omega)).mp hrest⟩
    · rintro ⟨j, hfirst, hrest⟩
      by_cases hstays : j = i
      · subst hstays
        exact ⟨j, hfirst, j, hfirst, hrest⟩
      · have hlow := hfirst.bounds.1
        exact ⟨j, hfirst, (ih (by omega)).mpr hrest⟩

/-- Beyond the number of positions the number of matches makes no difference. -/
theorem inRow_iff_of_lt (h : text.length < n) :
    InRow text p n i k ↔ InRow text p (text.length + 1) i k := by
  induction n, h using Nat.le_induction with
  | base => exact Iff.rfl
  | succ n hn ih =>
    rw [← ih]
    constructor
    · intro hrow
      have hbound := hrow.bounds.2
      exact (inRow_succ_iff (by omega)).mp hrow
    · intro hrow
      have hbound := hrow.bounds.2
      exact (inRow_succ_iff (by omega)).mpr hrow

/-- A repetition matches as often in a row as its bounds allow. -/
theorem matches_repeated_iff_inRow :
    Matches text (.repeated least most p) i k ↔
      ∃ n, least ≤ n ∧ (∀ limit ∈ most, n ≤ limit) ∧ InRow text p n i k := by
  constructor
  · intro h
    -- the pattern becomes an index, so that the induction is on the repetition only
    generalize hq : Pattern.repeated least most p = q at h
    induction h generalizing least most with
    | done bound =>
      cases hq
      exact ⟨0, Nat.le_refl 0, fun limit _ => Nat.zero_le limit, rfl, bound⟩
    | again room first rest ihfirst ihrest =>
      cases hq
      obtain ⟨n, hleast, hmost, hrow⟩ := ihrest rfl
      refine ⟨n + 1, by omega, fun limit hlimit => ?_, _, first, hrow⟩
      have hle := hmost (limit - 1) (Option.mem_map_of_mem _ hlimit)
      have hne : limit ≠ 0 := by
        rintro rfl
        exact room hlimit
      omega
    | _ => cases hq
  · rintro ⟨n, hleast, hmost, hrow⟩
    induction n generalizing least most i with
    | zero =>
      obtain ⟨rfl, hbound⟩ := hrow
      rw [Nat.le_zero.mp hleast]
      exact .done hbound
    | succ n ih =>
      obtain ⟨j, hfirst, hrest⟩ := hrow
      have hroom : most ≠ some 0 := by
        rintro rfl
        exact absurd (hmost 0 rfl) (by omega)
      refine .again hroom hfirst (ih (by omega) (fun limit hlimit => ?_) hrest)
      obtain ⟨more, hmore, rfl⟩ := Option.mem_map.mp hlimit
      have hle := hmost more hmore
      omega

/-! ## Following repetition -/

/-- What follows positions of a text are positions of the text. -/
theorem Follows.within (h : Follows text p f) {starts : Nat} (hstarts : Within text starts) :
    Within text (f starts) := by
  intro j hj
  obtain ⟨i, -, hmatches⟩ := (h starts hstarts j).mp hj
  exact hmatches.bounds.2

/-- Applying a function a number of times reaches what this number of matches in a row reaches. -/
theorem testBit_iterate_iff (h : Follows text p f) (count : Nat) {starts : Nat}
    (hstarts : Within text starts) :
    (iterate f count starts).testBit j = true ↔
      ∃ i, starts.testBit i = true ∧ InRow text p count i j := by
  induction count generalizing starts with
  | zero =>
    rw [iterate]
    constructor
    · intro hj
      exact ⟨j, hj, rfl, hstarts j hj⟩
    · rintro ⟨i, hi, rfl, -⟩
      exact hi
  | succ count ih =>
    rw [iterate, ih (h.within hstarts)]
    constructor
    · rintro ⟨j', hj', hrow⟩
      obtain ⟨i, hi, hmatches⟩ := (h starts hstarts j').mp hj'
      exact ⟨i, hi, j', hmatches, hrow⟩
    · rintro ⟨i, hi, j', hmatches, hrow⟩
      exact ⟨j', (h starts hstarts j').mpr ⟨i, hi, hmatches⟩, hrow⟩

/-- Whether positions are those reached from others by at most `bound` matches in a row. -/
def Reached (text : Text) (p : Pattern) (starts bound positions : Nat) : Prop :=
  ∀ j, positions.testBit j = true ↔
    ∃ i m, m ≤ bound ∧ starts.testBit i = true ∧ InRow text p m i j

/-- No match at all reaches the positions where it starts. -/
theorem reached_start {starts : Nat} (hstarts : Within text starts) :
    Reached text p starts 0 starts := by
  intro j
  constructor
  · intro hj
    exact ⟨j, 0, Nat.le_refl 0, hj, rfl, hstarts j hj⟩
  · rintro ⟨i, m, hm, hi, hrow⟩
    rw [Nat.le_zero.mp hm] at hrow
    rwa [← hrow.1]

/-- One round more. -/
theorem Reached.next {starts bound positions : Nat} (hf : Follows text p f)
    (hstarts : Within text starts) (h : Reached text p starts bound positions) :
    Reached text p starts (bound + 1) (starts ||| f positions) := by
  have hwithin : Within text positions := by
    intro j hj
    obtain ⟨i, m, -, -, hrow⟩ := (h j).mp hj
    exact hrow.bounds.2
  intro j
  rw [Nat.testBit_or, Bool.or_eq_true, hf positions hwithin j]
  constructor
  · rintro (hj | ⟨j', hj', hmatches⟩)
    · exact ⟨j, 0, Nat.zero_le _, hj, rfl, hstarts j hj⟩
    · obtain ⟨i, m, hm, hi, hrow⟩ := (h j').mp hj'
      refine ⟨i, m + 1, Nat.succ_le_succ hm, hi, ?_⟩
      exact inRow_add_iff.mpr ⟨j', hrow, inRow_one_iff.mpr hmatches⟩
  · rintro ⟨i, m, hm, hi, hrow⟩
    cases m with
    | zero =>
      rw [← hrow.1]
      exact Or.inl hi
    | succ m =>
      -- all matches but the last lead to a position that was reached before
      obtain ⟨j', hrow, hlast⟩ := inRow_add_iff.mp hrow
      refine Or.inr ⟨j', (h j').mpr ⟨i, m, Nat.le_of_succ_le_succ hm, hi, hrow⟩, ?_⟩
      exact inRow_one_iff.mp hlast

/-- What reaches nothing new stays what is reached. -/
theorem Reached.stays {starts bound positions : Nat} (hf : Follows text p f)
    (hstarts : Within text starts) (h : Reached text p starts bound positions)
    (hsame : starts ||| f positions = positions) (count : Nat) :
    Reached text p starts (bound + count) positions := by
  induction count with
  | zero => exact h
  | succ count ih =>
    have hnext := ih.next hf hstarts
    rwa [hsame] at hnext

/-- Each further application of a function allows one more match in a row. -/
theorem reached_reach {starts bound positions : Nat} (hf : Follows text p f)
    (hstarts : Within text starts) (h : Reached text p starts bound positions) (count : Nat) :
    Reached text p starts (bound + count) (reach f starts count positions) := by
  induction count generalizing bound positions with
  | zero => exact h
  | succ count ih =>
    rw [reach]
    split
    · next hsame => exact h.stays hf hstarts hsame (count + 1)
    · have hnext := ih (h.next hf hstarts)
      rwa [Nat.add_right_comm, Nat.add_assoc] at hnext

/-- Limited rounds reach what any number of matches within the bounds reaches. -/
theorem exists_rounds_iff (hordered : ∀ limit ∈ most, least ≤ limit) :
    (∃ m, m ≤ extraRounds text.length least most ∧
      InRow text p (min least (text.length + 1) + m) i k) ↔
    ∃ n, least ≤ n ∧ (∀ limit ∈ most, n ≤ limit) ∧ InRow text p n i k := by
  have hsame : ∀ {a b : Nat}, text.length < a → text.length < b →
      InRow text p a i k → InRow text p b i k := fun ha hb hrow =>
    (inRow_iff_of_lt hb).mpr ((inRow_iff_of_lt ha).mp hrow)
  constructor
  · rintro ⟨m, hm, hrow⟩
    by_cases hleast : least ≤ text.length + 1
    · rw [Nat.min_eq_left hleast] at hrow
      refine ⟨least + m, Nat.le_add_right _ _, fun limit hlimit => ?_, hrow⟩
      obtain rfl := Option.mem_def.mp hlimit
      have hle := hordered limit hlimit
      have hrounds : m ≤ limit - least := Nat.le_trans hm (Nat.min_le_left _ _)
      omega
    · -- the least number is beyond all positions, and one more position is as good
      exact ⟨least, Nat.le_refl _, hordered, hsame (by omega) (by omega) hrow⟩
  · rintro ⟨n, hleast, hmost, hrow⟩
    by_cases hlong : text.length + 1 < n - least ∨ text.length + 1 < least
    · -- more matches than positions: all rounds, or none beyond those that must be
      rcases hlong with hlong | hlong
      · refine ⟨text.length + 1, ?_, hsame (by omega) (by omega) hrow⟩
        cases most with
        | none => exact Nat.le_refl _
        | some limit =>
          have hle := hmost limit rfl
          exact Nat.le_min.mpr ⟨by omega, Nat.le_refl _⟩
      · exact ⟨0, Nat.zero_le _, hsame (by omega) (by omega) hrow⟩
    · refine ⟨n - least, ?_, ?_⟩
      · cases most with
        | none => exact (by omega : n - least ≤ text.length + 1)
        | some limit =>
          have hle := hmost limit rfl
          exact Nat.le_min.mpr ⟨by omega, by omega⟩
      · rwa [Nat.min_eq_left (by omega), Nat.add_sub_cancel' hleast]

/-- Prepared repetition follows repeated matches, from the least number to the limit. -/
theorem follows_repeated {size : Nat} (hsize : size = text.length) {moves : Moves}
    (h : Follows text p (moves.run size)) (hordered : ∀ limit ∈ most, least ≤ limit) :
    Follows text (.repeated least most p) ((Moves.repeated least most moves).run size) := by
  intro starts hstarts k
  subst hsize
  -- the least number of rounds is followed first, up to one round for each position
  have hafter : Within text (iterate (moves.run text.length) (min least (text.length + 1)) starts) := by
    intro j hj
    obtain ⟨i, -, hrow⟩ := (testBit_iterate_iff h _ hstarts).mp hj
    exact hrow.bounds.2
  have hreached := reached_reach h hafter (reached_start hafter)
  simp only [Nat.zero_add] at hreached
  simp only [matches_repeated_iff_inRow, ← exists_rounds_iff hordered]
  have hrun : (Moves.repeated least most moves).run text.length starts =
      reach (moves.run text.length) (iterate (moves.run text.length)
        (min least (text.length + 1)) starts) (extraRounds text.length least most)
        (iterate (moves.run text.length) (min least (text.length + 1)) starts) := by
    cases most <;> rfl
  rw [hrun, hreached _ k]
  constructor
  · rintro ⟨j, m, hm, hj, hrow⟩
    obtain ⟨i, hi, hfirst⟩ := (testBit_iterate_iff h _ hstarts).mp hj
    exact ⟨i, hi, m, hm, inRow_add_iff.mpr ⟨j, hfirst, hrow⟩⟩
  · rintro ⟨i, hi, m, hm, hrow⟩
    obtain ⟨j, hfirst, hrest⟩ := inRow_add_iff.mp hrow
    exact ⟨j, m, hm, (testBit_iterate_iff h _ hstarts).mpr ⟨i, hi, hfirst⟩, hrest⟩

/-! ## Following patterns -/

/-- A position belongs to the set when the element there satisfies the test. -/
theorem testBit_positionsWhere {α : Type} (test : α → Bool) (xs : List α) (i : Nat) :
    (positionsWhere test xs).testBit i = true ↔ ∃ x, xs[i]? = some x ∧ test x = true := by
  induction xs generalizing i with
  | nil => simp [positionsWhere]
  | cons x xs ih =>
    rw [positionsWhere]
    cases i with
    | zero =>
      rw [Nat.testBit_zero, decide_eq_true_iff]
      simp only [List.getElem?_cons_zero, Option.some.injEq, exists_eq_left']
      cases test x <;> simp
    | succ i =>
      have hhalf : ((test x).toNat + 2 * positionsWhere test xs) / 2 = positionsWhere test xs := by
        have hlt := Bool.toNat_lt (test x)
        omega
      rw [Nat.testBit_succ, hhalf, ih, List.getElem?_cons_succ]

/-- The neighbours of a position are the character before it and the one at it. -/
theorem getElem?_neighbours (before : Option Char) (text : Text) (i : Nat) :
    (neighbours before text)[i]? = if i ≤ text.length then
      some (if i = 0 then before else text[i - 1]?, text[i]?) else none := by
  induction text generalizing before i with
  | nil => cases i <;> simp [neighbours]
  | cons c text ih =>
    cases i with
    | zero => simp [neighbours]
    | succ i =>
      rw [neighbours, List.getElem?_cons_succ, ih]
      cases i <;> simp

theorem getElem?_neighbours_none (text : Text) {i : Nat} (h : i ≤ text.length) :
    (neighbours none text)[i]? = some (before? text i, text[i]?) := by
  rw [getElem?_neighbours, if_pos h]
  cases i <;> simp [before?]

/-- A prepared pattern takes the positions where the pattern may start to those where it may end. -/
theorem testBit_run_iff (h : p.IsOrdered) :
    Follows text p ((p.prepare text).run text.length) := by
  induction p with
  | empty =>
    intro starts hstarts j
    rw [prepare, Moves.run, Nat.testBit_and, Bool.and_eq_true]
    simp only [matches_empty_iff]
    show _ ∧ (2 ^ (text.length + 1) - 1).testBit j = true ↔ _
    -- the empty pattern stays at the positions of the text, which are a mask of ones
    rw [Nat.testBit_two_pow_sub_one, decide_eq_true_iff]
    constructor
    · rintro ⟨hj, hbound⟩
      exact ⟨j, hj, rfl, Nat.le_of_lt_succ hbound⟩
    · rintro ⟨i, hi, rfl, hbound⟩
      exact ⟨hi, Nat.lt_succ_of_le hbound⟩
  | one set =>
    intro starts hstarts j
    simp only [prepare, Moves.run, matches_one_iff, Nat.testBit_shiftLeft, Nat.testBit_and,
      Bool.and_eq_true, decide_eq_true_iff, testBit_positionsWhere]
    constructor
    · rintro ⟨hj, hstart, hmember⟩
      -- the set is tested at the position before the one that is reached
      exact ⟨j - 1, hstart, by omega, hmember⟩
    · rintro ⟨i, hi, rfl, hmember⟩
      exact ⟨by omega, hi, hmember⟩
  | anchor a =>
    intro starts hstarts j
    simp only [prepare, Moves.run, matches_anchor_iff, Nat.testBit_and, Bool.and_eq_true,
      testBit_positionsWhere]
    constructor
    · rintro ⟨hj, around, haround, hholds⟩
      have hbound := hstarts j hj
      -- an anchor sees the characters on both sides of the position
      rw [getElem?_neighbours_none text hbound] at haround
      obtain rfl := Option.some.inj haround
      exact ⟨j, hj, rfl, hbound, hholds⟩
    · rintro ⟨i, hi, rfl, hbound, hholds⟩
      exact ⟨hi, _, getElem?_neighbours_none text hbound, hholds⟩
  | sequence first second ihfirst ihsecond =>
    intro starts hstarts k
    have hfirst := ihfirst h.1
    -- the second pattern starts where the first one ends
    rw [prepare, Moves.run, ihsecond h.2 _ (hfirst.within hstarts) k]
    simp only [matches_sequence_iff]
    constructor
    · rintro ⟨j, hj, hsecond⟩
      obtain ⟨i, hi, hmatches⟩ := (hfirst starts hstarts j).mp hj
      exact ⟨i, hi, j, hmatches, hsecond⟩
    · rintro ⟨i, hi, j, hmatches, hsecond⟩
      exact ⟨j, (hfirst starts hstarts j).mpr ⟨i, hi, hmatches⟩, hsecond⟩
  | either left right ihleft ihright =>
    intro starts hstarts j
    rw [prepare, Moves.run, Nat.testBit_or, Bool.or_eq_true, ihleft h.1 starts hstarts j,
      ihright h.2 starts hstarts j]
    constructor
    · rintro (⟨i, hi, hmatches⟩ | ⟨i, hi, hmatches⟩)
      · exact ⟨i, hi, .left hmatches⟩
      · exact ⟨i, hi, .right hmatches⟩
    · rintro ⟨i, hi, hmatches⟩
      cases hmatches with
      | left hmatches => exact Or.inl ⟨i, hi, hmatches⟩
      | right hmatches => exact Or.inr ⟨i, hi, hmatches⟩
  | repeated least most body ih => exact follows_repeated rfl (ih h.2) h.1
  | group remembers body ih =>
    intro starts hstarts j
    simp only [prepare, matches_group_iff]
    exact ih h starts hstarts j

/-- A search succeeds exactly if the pattern matches somewhere in the text. -/
theorem search_eq_true_iff (h : p.IsOrdered) (text : Text) :
    p.search text = true ↔ p.FoundIn text := by
  have hstart : ∀ i, (Nat.pow 2 (text.length + 1) - 1).testBit i = true ↔ i ≤ text.length := by
    intro i
    show (2 ^ (text.length + 1) - 1).testBit i = true ↔ _
    rw [Nat.testBit_two_pow_sub_one, decide_eq_true_iff, Nat.lt_succ_iff]
  have hfollows : Follows text p ((p.prepare text).run text.length) := testBit_run_iff h
  have hends := hfollows _ fun i => (hstart i).mp
  rw [search, bne_iff_ne, FoundIn]
  constructor
  · intro hne
    obtain ⟨j, hj⟩ := Nat.exists_testBit_of_ne_zero hne
    obtain ⟨i, -, hmatches⟩ := (hends j).mp hj
    exact ⟨i, j, hmatches⟩
  · rintro ⟨i, j, hmatches⟩ hzero
    have hbounds := hmatches.bounds
    have hj := (hends j).mpr ⟨i, (hstart i).mpr (Nat.le_trans hbounds.1 hbounds.2), hmatches⟩
    rw [hzero, Nat.zero_testBit] at hj
    exact absurd hj (by simp)

end JvmSource.Pattern
