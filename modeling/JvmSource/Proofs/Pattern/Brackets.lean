import JvmSource.Proofs.Pattern.Items

/-!
# Brackets before a closing

`ReadsSet` says how the inside of a bracket is read, without a limit on the number of steps. A
closing parenthesis has no meaning there, so a bracket that leaves the closing behind it is the same
bracket without it (`ReadsSet.closed`).
-/

namespace JvmSource.Pattern

open Input

variable {input after : Input} {part : Expr} {set : SetExpr}

/-- The name of a class, which a colon and a bracket end, and what follows it. -/
def className? (text : Text) : Option (Text × Text) :=
  if (text.dropWhile (· != ':')).take 2 = [':', ']'] then
    some (text.takeWhile (· != ':'), (text.dropWhile (· != ':')).drop 2)
  else none

/-- What is left behind the name of a class is a suffix of the text. -/
theorem className?_suffix {text name rest : Text} (h : className? text = some (name, rest)) :
    rest <:+ text := by
  rw [className?] at h
  split at h
  · cases h
    exact (List.drop_suffix 2 _).trans (List.dropWhile_suffix _)
  · cases h

/-- A class is closed before the closing. -/
theorem className?_append_closing (text : Text) :
    className? (text ++ closing) =
      (className? text).map fun read => (read.1, read.2 ++ closing) := by
  rw [className?, className?]
  by_cases hcolon : text.dropWhile (· != ':') = []
  · -- there is no colon in the closing either
    have hclosed : (text ++ closing).dropWhile (· != ':') = [] := by
      rw [List.dropWhile_append, hcolon]
      decide
    rw [hclosed, hcolon]
    rfl
  · rw [(Text.scan_append_of_ne_nil hcolon closing).1, (Text.scan_append_of_ne_nil hcolon closing).2]
    rcases hscan : text.dropWhile (· != ':') with _ | ⟨c, _ | ⟨d, rest⟩⟩
    · exact absurd hscan hcolon
    · simp [closing]
    · simp only [List.cons_append, List.take_succ_cons, List.take_zero, List.drop_succ_cons,
        List.drop_zero]
      split <;> rfl

/-- Behind its opening, a POSIX class is read by its name, negated or not. -/
theorem readPosix?_of_cons {inside : Text} (hrest : input.rest = '[' :: ':' :: inside) :
    readPosix? input =
      (className? (if inside.head? == some '^' then inside.drop 1 else inside)).bind fun read =>
        (posixClass? read.1).map fun kind =>
          (.posix kind (inside.head? == some '^'), { input with rest := read.2 }) := by
  simp only [readPosix?, hrest, Text.drop_length_takeWhile]
  generalize (if (inside.head? == some '^') = true then inside.drop 1 else inside) = named
  split
  · next hend => simp [className?, hend]
  · next hend =>
    have hnone : className? named = none := by
      refine if_neg fun htake => hend (named.dropWhile (· != ':') |>.drop 2) ?_
      have hsplit := List.take_append_drop 2 (named.dropWhile (· != ':'))
      rw [htake] at hsplit
      exact hsplit.symm
    rw [hnone]
    rfl

/-- A POSIX class begins with a bracket and a colon. -/
theorem exists_of_readPosix? (h : readPosix? input = some (set, after)) :
    ∃ inside, input.rest = '[' :: ':' :: inside := by
  simp only [readPosix?] at h
  split at h
  · next inside hrest => exact ⟨inside, hrest⟩
  · cases h

/-- Reading a POSIX class takes one character at least. -/
theorem readPosix?_suffix (h : readPosix? input = some (set, after)) :
    after.rest <:+ input.rest.tail := by
  obtain ⟨inside, hrest⟩ := exists_of_readPosix? h
  rw [readPosix?_of_cons hrest] at h
  obtain ⟨⟨name, rest⟩, hname, h⟩ := Option.bind_eq_some_iff.mp h
  obtain ⟨kind, -, h⟩ := Option.map_eq_some_iff.mp h
  cases h
  have hnamed : (if inside.head? == some '^' then inside.drop 1 else inside) <:+ inside := by
    split
    · exact List.drop_suffix 1 inside
    · exact List.suffix_rfl
  rw [hrest]
  exact (className?_suffix hname).trans (hnamed.trans (List.suffix_cons ':' inside))

/-- A class is read without regard to what follows it. -/
theorem readPosix?_closed (input : Input) :
    readPosix? input.closed = (readPosix? input).map fun read => (read.1, read.2.closed) := by
  by_cases hopen : ∃ inside, input.rest = '[' :: ':' :: inside
  · obtain ⟨inside, hrest⟩ := hopen
    have hclosed : input.closed.rest = '[' :: ':' :: (inside ++ closing) := by
      rw [closed_rest, hrest]
      rfl
    have hnegated : ((inside ++ closing).head? == some '^') = (inside.head? == some '^') := by
      rw [head?_append_closing]
      cases inside <;> rfl
    have hnamed : (if inside.head? == some '^' then (inside ++ closing).drop 1
        else inside ++ closing) =
        (if inside.head? == some '^' then inside.drop 1 else inside) ++ closing := by
      cases inside with
      | nil => rfl
      | cons first more => split <;> rfl
    rw [readPosix?_of_cons hclosed, readPosix?_of_cons hrest, hnegated, hnamed,
      className?_append_closing]
    cases className? (if inside.head? == some '^' then inside.drop 1 else inside) with
    | none => rfl
    | some read => cases hkind : posixClass? read.1 <;> simp [hkind, Input.closed]
  · have hnone : readPosix? input = none :=
      Option.eq_none_iff_forall_ne_some.mpr fun read h => hopen (exists_of_readPosix? h)
    have hclosed : readPosix? input.closed = none := by
      refine Option.eq_none_iff_forall_ne_some.mpr fun read h => ?_
      obtain ⟨inside, hrest⟩ := exists_of_readPosix? h
      obtain ⟨first, hfirst, hsecond⟩ := rest_of_closed hrest (by decide)
      obtain ⟨inside', rfl, -⟩ := cons_of_append_closing hsecond.symm (by decide)
      exact hopen ⟨inside', hfirst⟩
    rw [hnone, hclosed]
    rfl

/-- Reading an item of a bracket takes one character at least. -/
theorem readSetItem?_suffix (h : readSetItem? input = some (part, after)) :
    after.rest <:+ input.rest.tail := by
  have hdrop := drop_one_suffix input
  simp only [readSetItem?] at h
  split at h
  · cases h
  · exact (readEscape?_suffix h).trans ((List.tail_suffix _).trans hdrop)
  · cases h
    exact hdrop

/-- The escape whose reading differs by the closing has no meaning inside brackets. -/
theorem readSetItem?_closed (h : readSetItem? input.closed = some (part, after))
    (hlong : 2 ≤ after.rest.length) :
    ∃ left : Input, after = left.closed ∧
      (readSetItem? input = some (part, left) ∨ ∃ a, part = .assertion a) := by
  obtain ⟨c, rest, hrest⟩ := exists_cons (readSetItem?_suffix h) hlong
  have hdrop := drop_one_closed hrest
  simp only [readSetItem?, closed_rest, hrest, List.cons_append] at h ⊢
  by_cases hc : c = '\\'
  · subst hc
    simp only [hdrop] at h ⊢
    obtain ⟨left, hleft, hread | ⟨rfl, -⟩⟩ := readEscape?_closed h hlong
    · exact ⟨left, hleft, Or.inl hread⟩
    · exact ⟨left, hleft, Or.inr ⟨_, rfl⟩⟩
  · simp only [hdrop, Option.some.injEq, Prod.mk.injEq] at h ⊢
    obtain ⟨rfl, rfl⟩ := h
    exact ⟨input.drop 1, rfl, Or.inl ⟨rfl, rfl⟩⟩

/-- A single item of a bracket, or a range of characters. -/
inductive ReadsSetRange (input : Input) : SetExpr → Input → Prop where
  | single {first set mid c rest} (hfirst : readSetItem? input = some (first, mid))
      (hrest : mid.skip.rest = c :: rest)
      (hend : c = '-' → mid.skip.second? = some ']' ∨ mid.skip.second? = some '-')
      (hset : setOf? first = some set) :
      ReadsSetRange input set mid.skip
  | range {first last mid rest after} (hfirst : readSetItem? input = some (.literal first, mid))
      (hhyphen : mid.skip.rest = '-' :: rest)
      (hmore : ¬ (mid.skip.second? = some ']' ∨ mid.skip.second? = some '-'))
      (hlast : readSetItem? mid.skip.next = some (.literal last, after))
      (hle : first.char ≤ last.char) :
      ReadsSetRange input (.range first last) after

/-- An item or a range is read exactly by the rules. -/
theorem readSetRange?_eq_some_iff :
    readSetRange? input = some (set, after) ↔ ReadsSetRange input set after := by
  constructor
  · intro h
    simp only [readSetRange?] at h
    obtain ⟨⟨first, mid⟩, hfirst, h⟩ := Option.bind_eq_some_iff.mp h
    simp only at h
    split at h
    · cases h
    · next hhyphen =>
      split at h
      · next hend =>
        obtain ⟨set, hset, h⟩ := Option.bind_eq_some_iff.mp h
        cases h
        exact .single hfirst hhyphen (fun _ => by simpa using hend) hset
      · next hmore =>
        obtain ⟨⟨last, after⟩, hlast, h⟩ := Option.bind_eq_some_iff.mp h
        simp only at h
        split at h
        · split at h
          · next hle =>
            cases h
            exact .range hfirst hhyphen (by simpa using hmore) hlast hle
          · cases h
        · cases h
    · -- no hyphen comes next, so the item stands alone
      next hnil hhyphen =>
      obtain ⟨set, hset, h⟩ := Option.bind_eq_some_iff.mp h
      cases h
      cases hrest : mid.skip.rest with
      | nil => exact (hnil hrest).elim
      | cons c rest =>
        refine .single hfirst hrest (fun hc => ?_) hset
        exact (hhyphen rest (by rw [hrest, hc])).elim
  · intro h
    cases h with
    | single hfirst hrest hend hset =>
      simp only [readSetRange?, hfirst, Option.bind_eq_bind, Option.bind_some, hrest]
      split
      · next hnil => cases hnil
      · next hcons =>
        rw [if_pos (by simpa using hend (List.cons.inj hcons).1), hset]
        rfl
      · rw [hset]
        rfl
    | range hfirst hhyphen hmore hlast hle =>
      simp only [readSetRange?, hfirst, Option.bind_eq_bind, Option.bind_some, hhyphen, hlast]
      rw [if_neg (by simpa using hmore), if_pos hle]
      rfl

/-- Reading an item or a range takes one character at least. -/
theorem ReadsSetRange.suffix (h : ReadsSetRange input set after) :
    after.rest <:+ input.rest.tail := by
  cases h with
  | single hfirst => exact (skip_suffix _).trans (readSetItem?_suffix hfirst)
  | range hfirst hhyphen hmore hlast =>
    exact (readSetItem?_suffix hlast).trans ((List.tail_suffix _).trans ((next_suffix_rest _).trans
      ((skip_suffix _).trans (readSetItem?_suffix hfirst))))

/-- An item is followed by something: behind a bracket that is left open there is no item. -/
theorem ReadsSetRange.closed (h : ReadsSetRange input.closed set after)
    (hlong : 3 ≤ after.rest.length) :
    ∃ left : Input, after = left.closed ∧ ReadsSetRange input set left := by
  -- behind a hyphen only a bracket or another hyphen makes a difference
  have hsecond : ∀ {c : Char} {mid : Input} {rest : Text}, c ≠ ')' → mid.rest = '-' :: rest →
      (mid.closed.second? = some c ↔ mid.second? = some c) := by
    intro c mid rest hc hrest
    rw [second?_closed hrest]
    cases mid.second? <;> simp [hc.symm]
  cases h with
  | single hfirst hrest hend hset =>
    have hmid := Nat.le_trans (Nat.le_of_succ_le hlong) (skip_suffix _).length_le
    obtain ⟨left, rfl, hfirst' | ⟨a, rfl⟩⟩ := readSetItem?_closed hfirst hmid
    · have hskip := skip_closed (Nat.le_of_succ_le hlong)
      rw [hskip] at hrest hend hlong ⊢
      cases hleft : left.skip.rest with
      | nil =>
        rw [closed_rest, hleft] at hlong
        exact absurd hlong (by decide)
      | cons c' rest' =>
        rw [closed_rest, hleft] at hrest
        obtain ⟨rfl, -⟩ := List.cons.inj hrest
        refine ⟨left.skip, rfl, .single hfirst' hleft (fun hc => ?_) hset⟩
        subst hc
        rw [← hsecond (by decide) hleft, ← hsecond (by decide) hleft]
        exact hend rfl
    · cases hset
  | range hfirst hhyphen hmore hlast hle =>
    have hnext := Nat.le_trans (Nat.le_of_succ_le hlong)
      ((readSetItem?_suffix hlast).trans (List.tail_suffix _)).length_le
    have hskip := Nat.le_trans hnext (next_suffix_rest _).length_le
    have hmid := Nat.le_trans hskip (skip_suffix _).length_le
    obtain ⟨left, rfl, hfirst' | ⟨a, ha⟩⟩ := readSetItem?_closed hfirst hmid
    · rw [skip_closed hskip] at hhyphen hmore hlast hnext
      obtain ⟨rest', hhyphen', hstep⟩ := next_of_closed hhyphen (by decide) hnext
      rw [hstep] at hlast
      rw [hsecond (by decide) hhyphen', hsecond (by decide) hhyphen'] at hmore
      obtain ⟨last, rfl, hlast' | ⟨a, ha⟩⟩ := readSetItem?_closed hlast (Nat.le_of_succ_le hlong)
      · exact ⟨last, rfl, .range hfirst' hhyphen' hmore hlast' hle⟩
      · cases ha
    · cases ha

/-! ## Brackets -/

/-- The hyphens at the start of a bracket are the characters that pass a test, each as an item. -/
theorem readHyphens_eq (bound : Nat) (input : Input) :
    readHyphens bound input =
      ((input.readWhile (· == '-') bound).1.map fun c => .literal ⟨c, false⟩,
        (input.readWhile (· == '-') bound).2) := by
  induction bound generalizing input with
  | zero => rfl
  | succ bound ih =>
    cases hrest : input.rest with
    | nil =>
      rw [readWhile_nil hrest, readHyphens, hrest]
      rfl
    | cons c rest =>
      rw [readWhile_cons hrest, readHyphens, hrest]
      by_cases hc : c = '-'
      · subst hc
        simp only [ih]
        rfl
      · simp [hc]

/-- Drops the sign that negates a bracket. -/
def dropNegation (input : Input) : Input :=
  if input.rest.head? == some '^' then input.next else input

/-- The hyphens or the closing bracket that stand for themselves at the start of a bracket. -/
def leading (input : Input) : List SetExpr × Input :=
  let read := readHyphens input.rest.length input
  if read.1.isEmpty && read.2.rest.head? == some ']' then
    ([.literal ⟨']', false⟩], read.2.next)
  else read

/-- The start of a bracket is its negation, and then what stands for itself. -/
theorem readSetStart_eq (input : Input) :
    readSetStart input =
      (input.next.rest.head? == some '^', leading (dropNegation input.next)) := by
  simp only [readSetStart, leading, dropNegation]
  split <;> split <;> rfl

theorem dropNegation_suffix (input : Input) : (dropNegation input).rest <:+ input.rest := by
  rw [dropNegation]
  split
  · exact next_suffix_rest input
  · exact List.suffix_rfl

theorem leading_suffix (input : Input) : (leading input).2.rest <:+ input.rest := by
  have hhyphens : (readHyphens input.rest.length input).2.rest <:+ input.rest := by
    rw [readHyphens_eq]
    exact readWhile_suffix _ _ input
  simp only [leading]
  split
  · exact (next_suffix_rest _).trans hhyphens
  · exact hhyphens

/-- Reading the start of a bracket takes the opening bracket at least. -/
theorem readSetStart_suffix (input : Input) :
    (readSetStart input).2.2.rest <:+ input.rest.tail := by
  rw [readSetStart_eq]
  exact (leading_suffix _).trans ((dropNegation_suffix _).trans (next_suffix input))

/-- Whether the input goes on with a certain character does not depend on the closing. -/
theorem head?_closed_beq (input : Input) {c : Char} (hc : c ≠ ')') :
    (input.closed.rest.head? == some c) = (input.rest.head? == some c) := by
  rw [closed_rest, head?_append_closing]
  cases input.rest with
  | nil => simp [hc.symm]
  | cons first rest => rfl

/-- If all of the closing is left behind the negation, it is the same without it. -/
theorem dropNegation_closed (hlong : 2 ≤ (dropNegation input.closed).rest.length) :
    dropNegation input.closed = (dropNegation input).closed := by
  rw [dropNegation, head?_closed_beq input (by decide)] at hlong ⊢
  rw [dropNegation]
  split
  · next hhead =>
    rw [if_pos hhead] at hlong
    obtain ⟨rest, hrest⟩ := List.head?_eq_some_iff.mp (beq_iff_eq.mp hhead)
    exact next_closed hrest hlong
  · rfl

/-- If all of the closing is left behind what stands for itself, the same items are read without
it. -/
theorem leading_closed (hlong : 2 ≤ (leading input.closed).2.rest.length) :
    leading input.closed = ((leading input).1, (leading input).2.closed) := by
  simp only [leading, readHyphens_eq] at hlong ⊢
  have hmid : 2 ≤ (input.closed.readWhile (· == '-') input.closed.rest.length).2.rest.length := by
    split at hlong
    · exact Nat.le_trans hlong (next_suffix_rest _).length_le
    · exact hlong
  obtain ⟨left, hleft, hread⟩ := readWhile_all_closed rfl hmid
  rw [hread]
  rw [hleft, head?_closed_beq left (by decide)] at hlong ⊢
  split
  · next hhead =>
    rw [if_pos hhead] at hlong
    simp only [Bool.and_eq_true, beq_iff_eq] at hhead
    obtain ⟨rest, hrest⟩ := List.head?_eq_some_iff.mp hhead.2
    rw [next_closed hrest hlong]
  · rfl

/-- The start of a bracket is told by what follows its opening. -/
theorem readSetStart_closed {c : Char} {rest : Text} (hrest : input.rest = c :: rest)
    (hlong : 2 ≤ (readSetStart input.closed).2.2.rest.length) :
    readSetStart input.closed =
      ((readSetStart input).1, (readSetStart input).2.1, (readSetStart input).2.2.closed) := by
  simp only [readSetStart_eq] at hlong ⊢
  have hstart := Nat.le_trans hlong (leading_suffix _).length_le
  have hnext := next_closed hrest (Nat.le_trans hstart (dropNegation_suffix _).length_le)
  rw [hnext] at hlong hstart ⊢
  rw [dropNegation_closed hstart] at hlong ⊢
  rw [leading_closed hlong, head?_closed_beq _ (by decide)]

/-- The set operator that a text starts with. -/
def setOperator? : Text → Option SetOperator
  | '&' :: '&' :: _ => some .intersection
  | '-' :: '-' :: _ => some .difference
  | '~' :: '~' :: _ => some .symmetricDifference
  | _ => none

/-- The closing is not part of a set operator. -/
theorem setOperator?_append_closing (text : Text) :
    setOperator? (text ++ closing) = setOperator? text := by
  match text with
  | [] => rfl
  | [c] => simp [setOperator?, closing]
  | c :: d :: rest =>
    simp only [List.cons_append, setOperator?]
    split <;> simp_all

/-- A set operator is one of three characters, written twice. -/
theorem setOperator?_eq_some {text : Text} {kind : SetOperator} (h : setOperator? text = some kind) :
    ∃ rest, text = '&' :: '&' :: rest ∧ kind = .intersection ∨
      text = '-' :: '-' :: rest ∧ kind = .difference ∨
      text = '~' :: '~' :: rest ∧ kind = .symmetricDifference := by
  simp only [setOperator?] at h
  split at h
  · next rest => exact ⟨rest, Or.inl ⟨rfl, (Option.some.inj h).symm⟩⟩
  · next rest => exact ⟨rest, Or.inr (Or.inl ⟨rfl, (Option.some.inj h).symm⟩)⟩
  · next rest => exact ⟨rest, Or.inr (Or.inr ⟨rfl, (Option.some.inj h).symm⟩)⟩
  · cases h

/-- How the inside of a bracket is read: it ends, or one of its members is followed by the rest. -/
inductive ReadsSet :
    Option (SetOperator × SetExpr) → List SetExpr → Input → SetExpr → Input → Prop where
  | close {pending items input rest} (hend : input.skip.rest = ']' :: rest) :
      ReadsSet pending items input (closeSet pending items) (input.skip.drop 1)
  | operator {pending items input kind set after} (hkind : setOperator? input.skip.rest = some kind)
      (hmore : ReadsSet (some (kind, closeSet pending items)) [] (input.skip.drop 2) set after) :
      ReadsSet pending items input set after
  | posix {pending items input item mid set after} (hposix : readPosix? input.skip = some (item, mid))
      (hmore : ReadsSet pending (items ++ [item]) mid set after) :
      ReadsSet pending items input set after
  | nested {pending items input rest inner mid set after} (hopen : input.skip.rest = '[' :: rest)
      (hposix : readPosix? input.skip = none)
      (hinner : ReadsSet none (readSetStart input.skip).2.1 (readSetStart input.skip).2.2 inner mid)
      (hmore : ReadsSet pending (items ++ [.bracketed inner (readSetStart input.skip).1]) mid
        set after) :
      ReadsSet pending items input set after
  | item {pending items input c rest item mid set after} (hrest : input.skip.rest = c :: rest)
      (hclose : c ≠ ']') (hopen : c ≠ '[') (hkind : setOperator? input.skip.rest = none)
      (hitem : ReadsSetRange input.skip item mid)
      (hmore : ReadsSet pending (items ++ [item]) mid set after) :
      ReadsSet pending items input set after

variable {pending : Option (SetOperator × SetExpr)} {items : List SetExpr} {bound : Nat}

/-- A set that is read within a bound follows the rules. -/
theorem readsSet_of_readSet? (h : readSet? bound pending items input = some (set, after)) :
    ReadsSet pending items input set after := by
  induction bound generalizing pending items input set after with
  | zero => cases h
  | succ bound ih =>
    simp only [readSet?] at h
    split at h
    · cases h
    · next hend =>
      cases h
      exact .close hend
    iterate 3
      next hkind => exact .operator (by rw [hkind]; rfl) (ih h)
    · next hopen =>
      split at h
      · next hposix => exact .posix hposix (ih h)
      · next hposix =>
        obtain ⟨⟨inner, mid⟩, hinner, h⟩ := Option.bind_eq_some_iff.mp h
        exact .nested hopen hposix (ih hinner) (ih h)
    · next hnil hclose hand hminus htilde hopen =>
      obtain ⟨⟨item, mid⟩, hitem, h⟩ := Option.bind_eq_some_iff.mp h
      cases hrest : input.skip.rest with
      | nil => exact (hnil hrest).elim
      | cons c rest =>
        -- none of the three operators comes next
        have hkind : setOperator? input.skip.rest = none := by
          refine Option.eq_none_iff_forall_ne_some.mpr fun kind hkind => ?_
          obtain ⟨more, ⟨heq, -⟩ | ⟨heq, -⟩ | ⟨heq, -⟩⟩ := setOperator?_eq_some hkind
          · exact hand more heq
          · exact hminus more heq
          · exact htilde more heq
        exact .item hrest (fun hc => hclose rest (by rw [hrest, hc]))
          (fun hc => hopen rest (by rw [hrest, hc])) hkind (readSetRange?_eq_some_iff.mp hitem)
          (ih h)

theorem drop_two_suffix (input : Input) : (input.drop 2).rest <:+ input.rest.tail := by
  rw [← List.drop_one]
  exact List.drop_suffix_drop_left _ (by decide)

/-- Reading a set takes one character at least. -/
theorem ReadsSet.suffix (h : ReadsSet pending items input set after) :
    after.rest <:+ input.rest.tail := by
  induction h with
  | close => exact (drop_one_suffix _).trans (tail_skip_suffix _)
  | operator hkind hmore ih =>
    exact ih.trans ((List.tail_suffix _).trans ((drop_two_suffix _).trans (tail_skip_suffix _)))
  | posix hposix hmore ih =>
    exact ih.trans ((List.tail_suffix _).trans ((readPosix?_suffix hposix).trans
      (tail_skip_suffix _)))
  | nested hopen hposix hinner hmore ihinner ihmore =>
    exact ihmore.trans ((List.tail_suffix _).trans (ihinner.trans ((List.tail_suffix _).trans
      ((readSetStart_suffix _).trans (tail_skip_suffix _)))))
  | item hrest hclose hopen hkind hitem hmore ih =>
    exact ih.trans ((List.tail_suffix _).trans (hitem.suffix.trans (tail_skip_suffix _)))

/-- A bound that was enough is still enough less one behind the first character. -/
theorem length_lt_of_suffix {mid : Input} {c : Char} {rest : Text} (hrest : input.skip.rest = c :: rest)
    (hsuffix : mid.rest <:+ input.rest.tail) (hbound : input.rest.length < bound + 1) :
    mid.rest.length < bound := by
  have hskip := (skip_suffix input).length_le
  have hmid := hsuffix.length_le
  rw [hrest, List.length_cons] at hskip
  rw [List.length_tail] at hmid
  omega

/-- A set that follows the rules is read within every bound above the length of the input. -/
theorem readSet?_of_readsSet (h : ReadsSet pending items input set after)
    (hbound : input.rest.length < bound) :
    readSet? bound pending items input = some (set, after) := by
  -- each step reads a character at least, so the bound stays above the length of what is left
  induction h generalizing bound with
  | close hend =>
    obtain ⟨bound, rfl⟩ := Nat.exists_eq_add_one_of_ne_zero (Nat.ne_zero_of_lt hbound)
    simp only [readSet?, hend]
  | @operator _ _ input _ _ _ hkind hmore ih =>
    obtain ⟨bound, rfl⟩ := Nat.exists_eq_add_one_of_ne_zero (Nat.ne_zero_of_lt hbound)
    have hdrop := (drop_two_suffix input.skip).trans (tail_skip_suffix input)
    obtain ⟨rest, ⟨hrest, rfl⟩ | ⟨hrest, rfl⟩ | ⟨hrest, rfl⟩⟩ := setOperator?_eq_some hkind
    all_goals
      simp only [readSet?, hrest]
      exact ih (length_lt_of_suffix hrest hdrop hbound)
  | posix hposix hmore ih =>
    obtain ⟨bound, rfl⟩ := Nat.exists_eq_add_one_of_ne_zero (Nat.ne_zero_of_lt hbound)
    obtain ⟨inside, hrest⟩ := exists_of_readPosix? hposix
    have hmid := (readPosix?_suffix hposix).trans (tail_skip_suffix _)
    simp only [readSet?, hrest, hposix]
    exact ih (length_lt_of_suffix hrest hmid hbound)
  | @nested _ _ input _ _ _ _ _ hopen hposix hinner hmore ihinner ihmore =>
    obtain ⟨bound, rfl⟩ := Nat.exists_eq_add_one_of_ne_zero (Nat.ne_zero_of_lt hbound)
    have hstart := (readSetStart_suffix input.skip).trans (tail_skip_suffix input)
    have hmid := hinner.suffix.trans ((List.tail_suffix _).trans hstart)
    simp only [readSet?, hopen, hposix, ihinner (length_lt_of_suffix hopen hstart hbound)]
    exact ihmore (length_lt_of_suffix hopen hmid hbound)
  | @item _ _ input c rest _ _ _ _ hrest hclose hopen hkind hitem hmore ih =>
    obtain ⟨bound, rfl⟩ := Nat.exists_eq_add_one_of_ne_zero (Nat.ne_zero_of_lt hbound)
    have hmid := hitem.suffix.trans (tail_skip_suffix input)
    have hread := readSetRange?_eq_some_iff.mpr hitem
    simp only [readSet?]
    split
    · next hnil => exact absurd (hrest.symm.trans hnil) (by simp)
    · next heq => exact absurd (List.cons.inj (hrest.symm.trans heq)).1 hclose
    iterate 3
      next heq =>
        rw [heq] at hkind
        cases hkind
    · next heq => exact absurd (List.cons.inj (hrest.symm.trans heq)).1 hopen
    · rw [hread]
      exact ih (length_lt_of_suffix hrest hmid hbound)

/-- A set that leaves all of the closing is read without it as well. -/
theorem ReadsSet.closed (h : ReadsSet pending items input.closed set after)
    (hlong : 2 ≤ after.rest.length) :
    ∃ left : Input, after = left.closed ∧ ReadsSet pending items input set left := by
  generalize hstart : input.closed = start at h
  induction h generalizing input with
  | close hend =>
    subst hstart
    have hskip := skip_closed (Nat.le_trans hlong (drop_suffix _ 1).length_le)
    rw [hskip] at hend ⊢
    obtain ⟨rest, hend', -⟩ := rest_of_closed hend (by decide)
    exact ⟨input.skip.drop 1, drop_one_closed hend', .close hend'⟩
  | operator hkind hmore ih =>
    subst hstart
    have hdrop := hmore.suffix.trans ((List.tail_suffix _).trans (drop_suffix _ 2))
    rw [skip_closed (Nat.le_trans hlong hdrop.length_le)] at hkind ih
    rw [closed_rest, setOperator?_append_closing] at hkind
    have htwo : 2 ≤ input.skip.rest.length := by
      obtain ⟨rest, ⟨hrest, -⟩ | ⟨hrest, -⟩ | ⟨hrest, -⟩⟩ := setOperator?_eq_some hkind
      all_goals
        rw [hrest]
        exact Nat.le_add_left 2 rest.length
    obtain ⟨left, hleft, hread⟩ := ih hlong (drop_closed htwo).symm
    exact ⟨left, hleft, .operator hkind hread⟩
  | posix hposix hmore ih =>
    subst hstart
    have hmid := hmore.suffix.trans ((List.tail_suffix _).trans
      ((readPosix?_suffix hposix).trans (List.tail_suffix _)))
    rw [skip_closed (Nat.le_trans hlong hmid.length_le), readPosix?_closed] at hposix
    obtain ⟨⟨item, mid⟩, hposix', heq⟩ := Option.map_eq_some_iff.mp hposix
    cases heq
    obtain ⟨left, hleft, hread⟩ := ih hlong rfl
    exact ⟨left, hleft, .posix hposix' hread⟩
  | nested hopen hposix hinner hmore ihinner ihmore =>
    subst hstart
    have hmid := Nat.le_trans hlong (hmore.suffix.trans (List.tail_suffix _)).length_le
    have hset := Nat.le_trans hmid (hinner.suffix.trans (List.tail_suffix _)).length_le
    have hskip := skip_closed (Nat.le_trans hset
      ((readSetStart_suffix _).trans (List.tail_suffix _)).length_le)
    rw [hskip] at hopen hposix hset ihinner ihmore
    obtain ⟨rest, hopen', -⟩ := rest_of_closed hopen (by decide)
    rw [readPosix?_closed, Option.map_eq_none_iff] at hposix
    rw [readSetStart_closed hopen' hset] at ihinner ihmore
    obtain ⟨mid, rfl, hinner'⟩ := ihinner hmid rfl
    obtain ⟨left, hleft, hread⟩ := ihmore hlong rfl
    exact ⟨left, hleft, .nested hopen' hposix hinner' hread⟩
  | @item _ _ _ _ _ _ mid _ _ hrest hclose hopen hkind hitem hmore ih =>
    subst hstart
    -- the bracket is still open behind the item, so one more character than the closing is left
    have hmid : 3 ≤ mid.rest.length := by
      have htail := Nat.le_trans hlong hmore.suffix.length_le
      rw [List.length_tail] at htail
      omega
    have hlong' := Nat.le_of_succ_le hmid
    rw [skip_closed (Nat.le_trans hlong' (hitem.suffix.trans (List.tail_suffix _)).length_le)]
      at hrest hkind hitem
    obtain ⟨c, rest, hrest'⟩ := exists_cons hitem.suffix hlong'
    rw [closed_rest, hrest'] at hrest
    obtain ⟨rfl, -⟩ := List.cons.inj hrest
    rw [closed_rest, setOperator?_append_closing] at hkind
    obtain ⟨mid, rfl, hitem'⟩ := hitem.closed hmid
    obtain ⟨left, hleft, hread⟩ := ih hlong rfl
    exact ⟨left, hleft, .item hrest' hclose hopen hkind hitem' hread⟩

/-! ## Brackets as parts of a pattern -/

/-- Reading a bracket takes one character at least. -/
theorem readBracket?_suffix (h : readBracket? input = some (part, after)) :
    after.rest <:+ input.rest.tail := by
  simp only [readBracket?] at h
  obtain ⟨⟨set, mid⟩, hset, h⟩ := Option.bind_eq_some_iff.mp h
  cases h
  exact (readsSet_of_readSet? hset).suffix.trans ((List.tail_suffix _).trans
    (readSetStart_suffix input))

/-- A bracket that leaves all of the closing is read without it as well. -/
theorem readBracket?_closed {c : Char} {rest : Text} (hrest : input.rest = c :: rest)
    (h : readBracket? input.closed = some (part, after)) (hlong : 2 ≤ after.rest.length) :
    ∃ left : Input, after = left.closed ∧ readBracket? input = some (part, left) := by
  simp only [readBracket?] at h ⊢
  obtain ⟨⟨set, mid⟩, hset, h⟩ := Option.bind_eq_some_iff.mp h
  cases h
  have hreads := readsSet_of_readSet? hset
  have hstart := readSetStart_closed hrest
    (Nat.le_trans hlong (hreads.suffix.trans (List.tail_suffix _)).length_le)
  rw [hstart] at hreads ⊢
  obtain ⟨left, hleft, hreads'⟩ := hreads.closed hlong
  refine ⟨left, hleft, ?_⟩
  rw [readSet?_of_readsSet hreads' (Nat.lt_succ_self _)]
  rfl

end JvmSource.Pattern
