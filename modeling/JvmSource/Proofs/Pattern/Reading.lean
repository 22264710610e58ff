import JvmSource.Proofs.Pattern.Brackets

/-!
# Reading before a closing

`Reads` says how a pattern is read, part by part and without a limit on the number of steps
(`reads_of_readEither?`, `readEither?_of_reads`). If a reading leaves all of the closing behind an
input, the input has the same reading without it (`Reads.closed`).
-/

namespace JvmSource.Pattern

open Input

variable {input after : Input} {part expr : Expr}

/-! ## Groups -/

/-- A hyphen turns the flags behind it off; there is one only, and a flag behind it. -/
theorem readFlags?_hyphen (negative : Bool) (change : FlagChange) (c : Char) (rest : Text) :
    readFlags? negative change ('-' :: c :: rest) =
      if negative || c == ':' || c == ')' then none else readFlags? true change (c :: rest) := by
  rw [readFlags?]

/-- Any other character ends the flags or is a flag that has not been named yet. -/
theorem readFlags?_cons (negative : Bool) (change : FlagChange) {c : Char} (hc : c ≠ '-')
    (rest : Text) :
    readFlags? negative change (c :: rest) =
      if c == ':' || c == ')' then some (change, c :: rest)
      else
        (flag? c).bind fun flag =>
          if change.any (·.1 == flag) then none
          else readFlags? negative (change ++ [(flag, !negative)]) rest := by
  rw [readFlags?.eq_2 _ _ _ _ fun _ _ h _ => hc h]
  split
  · rfl
  · cases flag? c <;> rfl

/-- What is left behind flags is a suffix of the text. -/
theorem readFlags?_suffix {negative : Bool} {change change' : FlagChange} {text rest : Text}
    (h : readFlags? negative change text = some (change', rest)) : rest <:+ text := by
  induction text generalizing negative change with
  | nil => cases h
  | cons c text ih =>
    by_cases hc : c = '-'
    · subst hc
      cases text with
      | nil => cases h
      | cons d text =>
        rw [readFlags?_hyphen] at h
        split at h
        · cases h
        · exact (ih h).trans (List.suffix_cons _ _)
    · rw [readFlags?_cons _ _ hc] at h
      split at h
      · cases h
        exact List.suffix_rfl
      · obtain ⟨flag, -, h⟩ := Option.bind_eq_some_iff.mp h
        split at h
        · cases h
        · exact (ih h).trans (List.suffix_cons _ _)

/-- Flags that leave all of the closing are read without it as well. -/
theorem readFlags?_closing {negative : Bool} {change change' : FlagChange} {text rest : Text}
    (h : readFlags? negative change (text ++ closing) = some (change', rest))
    (hlong : 3 ≤ rest.length) :
    ∃ left, rest = left ++ closing ∧ readFlags? negative change text = some (change', left) := by
  induction text generalizing negative change with
  | nil => exact absurd (Nat.le_trans hlong (readFlags?_suffix h).length_le) (by decide)
  | cons c text ih =>
    by_cases hc : c = '-'
    · subst hc
      cases text with
      | nil =>
        -- a hyphen before a parenthesis is refused
        change readFlags? negative change ['-', ')', '$'] = _ at h
        simp [readFlags?_hyphen] at h
      | cons d text =>
        rw [List.cons_append, List.cons_append, readFlags?_hyphen] at h
        rw [readFlags?_hyphen]
        split at h
        · cases h
        · next hd =>
          rw [if_neg hd]
          exact ih h
    · rw [List.cons_append, readFlags?_cons _ _ hc] at h
      rw [readFlags?_cons _ _ hc]
      split at h
      · next hstop =>
        cases h
        exact ⟨c :: text, rfl, if_pos hstop⟩
      · next hstop =>
        obtain ⟨flag, hflag, h⟩ := Option.bind_eq_some_iff.mp h
        rw [if_neg hstop, hflag, Option.bind_some]
        split at h
        · cases h
        · next hnew =>
          rw [if_neg hnew]
          exact ih h

/-- A name reaches up to the first closing angle bracket, which is taken with it. -/
theorem readName?_eq (text : Text) :
    readName? text =
      match text.takeWhile (· != '>'), text.dropWhile (· != '>') with
      | c :: more, _ :: rest =>
        if startsName c && more.all continuesName then some (c :: more, rest) else none
      | _, _ => none := by
  simp only [readName?, Text.drop_length_takeWhile]
  cases text.takeWhile (· != '>') <;> cases text.dropWhile (· != '>') <;> rfl

/-- A name ends before the closing. -/
theorem readName?_append_closing (text : Text) :
    readName? (text ++ closing) = (readName? text).map fun read => (read.1, read.2 ++ closing) := by
  rw [readName?_eq, readName?_eq]
  by_cases hend : text.dropWhile (· != '>') = []
  · have hclosed : (text ++ closing).dropWhile (· != '>') = [] := by
      rw [List.dropWhile_append, hend]
      decide
    rw [hend, hclosed]
    split <;> split <;> simp_all
  · rw [(Text.scan_append_of_ne_nil hend closing).1, (Text.scan_append_of_ne_nil hend closing).2]
    obtain ⟨first, rest, hcons⟩ := List.exists_cons_of_ne_nil hend
    rw [hcons, List.cons_append]
    cases text.takeWhile (· != '>') with
    | nil => rfl
    | cons c more => split <;> simp_all

/-- What is left behind a name is a suffix of the text. -/
theorem readName?_suffix {text name rest : Text} (h : readName? text = some (name, rest)) :
    rest <:+ text := by
  rw [readName?_eq] at h
  split at h
  · next hend =>
    split at h
    · cases h
      exact (List.suffix_cons _ _).trans (hend ▸ List.dropWhile_suffix (· != '>'))
    · cases h
  · cases h

/-- Flags do not start with a sign of look-around or of a name. -/
theorem readFlags?_eq_none {negative : Bool} {change : FlagChange} {c : Char} (text : Text)
    (hc : c ∈ ['=', '!', '<', 'P']) : readFlags? negative change (c :: text) = none := by
  have hhyphen : c ≠ '-' := by
    rintro rfl
    exact absurd hc (by decide)
  simp only [List.mem_cons, List.not_mem_nil, or_false] at hc
  rw [readFlags?_cons _ _ hhyphen]
  rcases hc with rfl | rfl | rfl | rfl <;> rfl

/-- The name of a group does not start with a sign of look-behind. -/
theorem readName?_eq_none {c : Char} (text : Text) (hc : c ∈ ['=', '!']) :
    readName? (c :: text) = none := by
  simp only [List.mem_cons, List.not_mem_nil, or_false] at hc
  have hstarts : startsName c = false := by
    rcases hc with rfl | rfl <;> decide
  have hscan : (c :: text).takeWhile (· != '>') = c :: text.takeWhile (· != '>') := by
    rcases hc with rfl | rfl <;> rfl
  rw [readName?_eq, hscan]
  cases (c :: text).dropWhile (· != '>') with
  | nil => rfl
  | cons first rest => simp [hstarts]

/-- What may follow an opening parenthesis: a change of flags, the flags of a group, the name of a
group, or its inside. -/
inductive StartsGroup (inside : Input) : GroupStart → Input → Prop where
  | flags {text change c rest} (hmark : inside.rest = '?' :: text)
      (hflags : readFlags? false [] text = some (change, c :: rest)) (hc : c ≠ ':')
      (hchange : change ≠ []) :
      StartsGroup inside (.flags change) { inside with rest }
  | group {text change rest} (hmark : inside.rest = '?' :: text)
      (hflags : readFlags? false [] text = some (change, ':' :: rest)) :
      StartsGroup inside (.group change) { inside with rest }
  | named {text name rest}
      (hmark : inside.rest = '?' :: '<' :: text ∨ inside.rest = '?' :: 'P' :: '<' :: text)
      (hname : readName? text = some (name, rest)) (hnew : name ∉ inside.groupNames) :
      StartsGroup inside .capture { inside with rest, groupNames := name :: inside.groupNames }
  | plain (hmark : ∀ text, inside.rest ≠ '?' :: text) : StartsGroup inside .capture inside

/-- The start of a group that is read follows the rules for it. -/
theorem startsGroup_of_readGroupStart? {start : GroupStart}
    (h : readGroupStart? input = some (start, after)) :
    StartsGroup (input.drop 1).skip start after := by
  simp only [readGroupStart?] at h
  generalize (input.drop 1).skip = inside at h ⊢
  split at h
  -- look-around is refused
  iterate 4 cases h
  · next text hmark =>
    obtain ⟨⟨name, rest⟩, hname, h⟩ := Option.bind_eq_some_iff.mp h
    simp only at h
    split at h
    · cases h
    · next hnew =>
      cases h
      exact .named (Or.inr hmark) hname (by simpa using hnew)
  · next text _ _ hmark =>
    obtain ⟨⟨name, rest⟩, hname, h⟩ := Option.bind_eq_some_iff.mp h
    simp only at h
    split at h
    · cases h
    · next hnew =>
      cases h
      exact .named (Or.inl hmark) hname (by simpa using hnew)
  · next hmark =>
    obtain ⟨⟨change, text⟩, hflags, h⟩ := Option.bind_eq_some_iff.mp h
    simp only at h
    split at h
    · cases h
      exact .group hmark hflags
    · next hc =>
      split at h
      · cases h
      · next hchange =>
        cases h
        exact .flags hmark hflags hc (by simpa using hchange)
    · cases h
  · next hmark =>
    cases h
    exact .plain hmark

/-- Where flags can be read, none of the signs that are looked for first is found. -/
theorem readGroupStart?_of_flags {text : Text} (hmark : (input.drop 1).skip.rest = '?' :: text)
    (hflags : (readFlags? false [] text).isSome = true) :
    readGroupStart? input =
      (readFlags? false [] text).bind fun (change, rest) =>
        match rest with
        | ':' :: rest => some (.group change, { (input.drop 1).skip with rest })
        | _ :: rest =>
          if change.isEmpty then none
          else some (.flags change, { (input.drop 1).skip with rest })
        | [] => none := by
  simp only [readGroupStart?]
  generalize (input.drop 1).skip = inside at hmark ⊢
  rw [hmark]
  split
  iterate 6
    next heq =>
      obtain rfl := (List.cons.inj heq).2
      rw [readFlags?_eq_none _ (by decide)] at hflags
      cases hflags
  · next heq =>
    obtain rfl := (List.cons.inj heq).2
    rfl
  · next heq => exact (heq _ rfl).elim

/-- Where a name is read, look-behind is not found. -/
theorem readGroupStart?_of_name {text name rest : Text}
    (hmark : (input.drop 1).skip.rest = '?' :: '<' :: text ∨
      (input.drop 1).skip.rest = '?' :: 'P' :: '<' :: text)
    (hname : readName? text = some (name, rest))
    (hnew : name ∉ (input.drop 1).skip.groupNames) :
    readGroupStart? input =
      some (.capture, { (input.drop 1).skip with
        rest, groupNames := name :: (input.drop 1).skip.groupNames }) := by
  simp only [readGroupStart?]
  generalize (input.drop 1).skip = inside at hmark hnew ⊢
  rcases hmark with hmark | hmark
  · rw [hmark]
    split
    iterate 2 next heq => cases heq
    iterate 2
      next heq =>
        obtain rfl := (List.cons.inj (List.cons.inj heq).2).2
        -- look-behind has a mark where the name would start
        rw [readName?_eq_none _ (by decide)] at hname
        cases hname
    · next heq => cases heq
    · next heq =>
      obtain rfl := (List.cons.inj (List.cons.inj heq).2).2
      simp [hname, hnew]
    · next hangle heq => exact (hangle _ (List.cons.inj heq).2.symm).elim
    · next heq => exact (heq _ rfl).elim
  · simp [hmark, hname, hnew]

/-- By whatever rule a group starts, its start is read. -/
theorem readGroupStart?_of_startsGroup {start : GroupStart}
    (h : StartsGroup (input.drop 1).skip start after) :
    readGroupStart? input = some (start, after) := by
  cases h with
  | flags hmark hflags hc hchange =>
    rw [readGroupStart?_of_flags hmark (by rw [hflags]; rfl), hflags]
    simp [hchange]
  | group hmark hflags =>
    rw [readGroupStart?_of_flags hmark (by rw [hflags]; rfl), hflags]
    rfl
  | named hmark hname hnew => exact readGroupStart?_of_name hmark hname hnew
  | plain hmark =>
    simp only [readGroupStart?]
    split
    iterate 7 next heq => exact absurd heq (hmark _)
    rfl

theorem readGroupStart?_eq_some_iff {start : GroupStart} :
    readGroupStart? input = some (start, after) ↔
      StartsGroup (input.drop 1).skip start after :=
  ⟨startsGroup_of_readGroupStart?, readGroupStart?_of_startsGroup⟩

/-- What is left behind the start of a group is a suffix of the text. -/
theorem StartsGroup.suffix {start : GroupStart} (h : StartsGroup input start after) :
    after.rest <:+ input.rest := by
  cases h with
  | flags hmark hflags =>
    rw [hmark]
    exact ((List.suffix_cons _ _).trans (readFlags?_suffix hflags)).trans (List.suffix_cons _ _)
  | group hmark hflags =>
    rw [hmark]
    exact ((List.suffix_cons _ _).trans (readFlags?_suffix hflags)).trans (List.suffix_cons _ _)
  | named hmark hname =>
    rcases hmark with hmark | hmark
    · rw [hmark]
      exact (readName?_suffix hname).trans (List.suffix_append ['?', '<'] _)
    · rw [hmark]
      exact (readName?_suffix hname).trans (List.suffix_append ['?', 'P', '<'] _)
  | plain => exact List.suffix_rfl

/-- The start of a group that leaves all of the closing is one without it as well. -/
theorem StartsGroup.closed {start : GroupStart} (h : StartsGroup input.closed start after)
    (hlong : 2 ≤ after.rest.length) :
    ∃ left : Input, after = left.closed ∧ StartsGroup input start left := by
  cases h with
  | flags hmark hflags hc hchange =>
    obtain ⟨text, hmark', rfl⟩ := rest_of_closed hmark (by decide)
    obtain ⟨left, hleft, hflags'⟩ := readFlags?_closing hflags (Nat.succ_le_succ hlong)
    obtain ⟨rest, rfl, rfl⟩ := cons_of_append_closing_of_le hleft.symm hlong
    exact ⟨{ input with rest }, rfl, .flags hmark' hflags' hc hchange⟩
  | group hmark hflags =>
    obtain ⟨text, hmark', rfl⟩ := rest_of_closed hmark (by decide)
    obtain ⟨left, hleft, hflags'⟩ := readFlags?_closing hflags (Nat.succ_le_succ hlong)
    obtain ⟨rest, rfl, rfl⟩ := cons_of_append_closing_of_le hleft.symm hlong
    exact ⟨{ input with rest }, rfl, .group hmark' hflags'⟩
  | @named text name rest hmark hname hnew =>
    -- the marks before the name are taken off one by one, each well before the closing
    obtain ⟨text, hmark', rfl⟩ : ∃ text', (input.rest = '?' :: '<' :: text' ∨
        input.rest = '?' :: 'P' :: '<' :: text') ∧ text = text' ++ closing := by
      rcases hmark with hmark | hmark
      · obtain ⟨first, hfirst, hsecond⟩ := rest_of_closed hmark (by decide)
        obtain ⟨text', rfl, htext⟩ := cons_of_append_closing hsecond.symm (by decide)
        exact ⟨text', Or.inl hfirst, htext⟩
      · obtain ⟨first, hfirst, hsecond⟩ := rest_of_closed hmark (by decide)
        obtain ⟨second, rfl, hthird⟩ := cons_of_append_closing hsecond.symm (by decide)
        obtain ⟨text', rfl, htext⟩ := cons_of_append_closing hthird.symm (by decide)
        exact ⟨text', Or.inr hfirst, htext⟩
    rw [readName?_append_closing] at hname
    obtain ⟨⟨name, rest⟩, hname', heq⟩ := Option.map_eq_some_iff.mp hname
    cases heq
    exact ⟨{ input with rest, groupNames := name :: input.groupNames }, rfl,
      .named hmark' hname' hnew⟩
  | plain hmark => exact ⟨input, rfl, .plain fun text htext => hmark _ (by rw [closed_rest, htext]; rfl)⟩

/-- Reading the start of a group takes the parenthesis at least. -/
theorem readGroupStart?_suffix {start : GroupStart}
    (h : readGroupStart? input = some (start, after)) : after.rest <:+ input.rest.tail := by
  exact (readGroupStart?_eq_some_iff.mp h).suffix.trans (next_suffix input)

/-- The start of a group is read without the closing if it leaves all of that. -/
theorem readGroupStart?_closed {start : GroupStart} {c : Char} {rest : Text}
    (hrest : input.rest = c :: rest) (h : readGroupStart? input.closed = some (start, after))
    (hlong : 2 ≤ after.rest.length) :
    ∃ left : Input, after = left.closed ∧ readGroupStart? input = some (start, left) := by
  have hstart := readGroupStart?_eq_some_iff.mp h
  rw [drop_one_closed hrest] at hstart
  rw [skip_closed (Nat.le_trans hlong hstart.suffix.length_le)] at hstart
  obtain ⟨left, hleft, hstart'⟩ := hstart.closed hlong
  exact ⟨left, hleft, readGroupStart?_eq_some_iff.mpr hstart'⟩

/-! ## Parts and repetitions -/

/-- Characters that are no parts on their own. -/
def reserved : List Char := ['|', ')', '(', '[', '?', '*', '+', '{', '\\']

/-- The part that is written as one character. -/
def symbol? (c : Char) : Option Expr :=
  if c ∈ reserved then none
  else if c = '.' then some .dot
  else if c = '^' then some (.assertion .lineStart)
  else if c = '$' then some (.assertion .lineEnd)
  else some (.literal ⟨c, false⟩)

/-- A character without a meaning of its own stands for itself. -/
theorem symbol?_literal {c : Char} (hreserved : c ∉ reserved) (hdot : c ≠ '.') (hcaret : c ≠ '^')
    (hdollar : c ≠ '$') : symbol? c = some (.literal ⟨c, false⟩) := by
  rw [symbol?, if_neg hreserved, if_neg hdot, if_neg hcaret, if_neg hdollar]

/-- Reads a part that is not a group. -/
def readPart? (input : Input) : Option (Expr × Input) :=
  match input.rest with
  | [] => none
  | '[' :: _ => readBracket? input
  | '\\' :: _ => readEscape? (input.drop 1)
  | c :: _ => (symbol? c).map fun part => (part, input.drop 1)

/-- Reads how often a part is repeated. -/
def readRepetition? (input : Input) : Option (Nat × Option Nat × Input) :=
  match input.rest with
  | '?' :: _ => some (0, some 1, dropLazy (input.drop 1))
  | '*' :: _ => some (0, none, dropLazy (input.drop 1))
  | '+' :: _ => some (1, none, dropLazy (input.drop 1))
  | '{' :: _ => readBounds? input
  | _ => none

/-- Reading a part takes one character at least. -/
theorem readPart?_suffix (h : readPart? input = some (part, after)) :
    after.rest <:+ input.rest.tail := by
  have hdrop := drop_one_suffix input
  simp only [readPart?] at h
  split at h
  · cases h
  · exact readBracket?_suffix h
  · exact (readEscape?_suffix h).trans ((List.tail_suffix _).trans hdrop)
  · obtain ⟨part, -, h⟩ := Option.map_eq_some_iff.mp h
    cases h
    exact hdrop

/-- A part that leaves all of the closing is read without it as well, or it leaves a brace with
nothing behind it. -/
theorem readPart?_closed (h : readPart? input.closed = some (part, after))
    (hlong : 2 ≤ after.rest.length) :
    ∃ left : Input, after = left.closed ∧ (readPart? input = some (part, left) ∨
      (∃ rest, left.rest = '{' :: rest) ∧ left.next.rest = []) := by
  obtain ⟨c, rest, hrest⟩ := exists_cons (readPart?_suffix h) hlong
  have hdrop := drop_one_closed hrest
  have hclosed : input.closed.rest = c :: (rest ++ closing) := by rw [closed_rest, hrest]; rfl
  by_cases hbracket : c = '['
  · subst hbracket
    simp only [readPart?, hclosed, hrest] at h ⊢
    obtain ⟨left, hleft, hread⟩ := readBracket?_closed hrest h hlong
    exact ⟨left, hleft, Or.inl hread⟩
  by_cases hescape : c = '\\'
  · subst hescape
    simp only [readPart?, hclosed, hrest, hdrop] at h ⊢
    obtain ⟨left, hleft, hread | ⟨-, hbrace⟩⟩ := readEscape?_closed h hlong
    · exact ⟨left, hleft, Or.inl hread⟩
    · exact ⟨left, hleft, Or.inr hbrace⟩
  · simp only [readPart?, hclosed, hrest, hdrop] at h ⊢
    obtain ⟨part, hpart, h⟩ := Option.map_eq_some_iff.mp h
    cases h
    exact ⟨input.drop 1, rfl, Or.inl (by rw [hpart]; rfl)⟩

/-- Reading a repetition takes one character at least. -/
theorem readRepetition?_suffix {least : Nat} {most : Option Nat}
    (h : readRepetition? input = some (least, most, after)) : after.rest <:+ input.rest.tail := by
  have hlazy := (dropLazy_suffix (input.drop 1)).trans (drop_one_suffix input)
  simp only [readRepetition?] at h
  split at h
  iterate 3
    · cases h
      exact hlazy
  · exact (readBounds?_eq_some_iff.mp h).suffix
  · cases h

/-- The limit of a repetition is not below its least number. -/
theorem readRepetition?_ordered {least : Nat} {most : Option Nat}
    (h : readRepetition? input = some (least, most, after)) : ∀ limit ∈ most, least ≤ limit := by
  simp only [readRepetition?] at h
  split at h
  iterate 3
    · cases h
      simp
  · exact (readBounds?_eq_some_iff.mp h).ordered
  · cases h

/-- A repetition that leaves all of the closing is read without it as well. -/
theorem readRepetition?_closed {least : Nat} {most : Option Nat}
    (h : readRepetition? input.closed = some (least, most, after)) (hlong : 2 ≤ after.rest.length) :
    ∃ left : Input, after = left.closed ∧ readRepetition? input = some (least, most, left) := by
  obtain ⟨c, rest, hrest⟩ := exists_cons (readRepetition?_suffix h) hlong
  have hdrop : dropLazy (input.closed.drop 1) = (dropLazy (input.drop 1)).closed := by
    rw [drop_one_closed hrest, dropLazy_closed]
  simp only [readRepetition?, closed_rest, hrest, List.cons_append, hdrop] at h ⊢
  split at h
  iterate 3
    · next heq =>
      obtain ⟨rfl, -⟩ := List.cons.inj heq
      cases h
      exact ⟨dropLazy (input.drop 1), rfl, rfl⟩
  · next heq =>
    obtain ⟨rfl, -⟩ := List.cons.inj heq
    obtain ⟨left, hleft, hbounds⟩ := (readBounds?_eq_some_iff.mp h).closed hlong
    exact ⟨left, hleft, readBounds?_eq_some_iff.mpr hbounds⟩
  · cases h

/-! ## Whole patterns -/

/-- Whether consecutive parts end before a text: at a bar, a closing parenthesis or the end. -/
def EndsParts (text : Text) : Prop := ∀ c ∈ text.head?, c = '|' ∨ c = ')'

/-- What is read next: alternatives after those that are given, or parts after those that are given
in reverse. -/
inductive Stage where
  | branches (done : List Expr)
  | parts (done : List Expr)

/-- How a pattern is read. -/
inductive Reads : Stage → Input → Expr → Input → Prop where
  | last {done input branch after} (hbranch : Reads (.parts []) input branch after)
      (hend : after.rest.head? ≠ some '|') :
      Reads (.branches done) input (eitherOf (done ++ [branch])) after
  | bar {done input branch mid rest expr after} (hbranch : Reads (.parts []) input branch mid)
      (hbar : mid.rest = '|' :: rest)
      (hmore : Reads (.branches (done ++ [branch])) (mid.drop 1) expr after) :
      Reads (.branches done) input expr after
  | stop {done input} (hstop : EndsParts input.skip.rest) :
      Reads (.parts done) input (sequenceOf done.reverse) input.skip
  | part {done input part mid expr after} (hpart : readPart? input.skip = some (part, mid))
      (hmore : Reads (.parts (part :: done)) mid expr after) :
      Reads (.parts done) input expr after
  | repetition {done input least most mid done' expr after}
      (hbounds : readRepetition? input.skip = some (least, most, mid))
      (hdone : repeatLast? least most done = some done')
      (hmore : Reads (.parts done') mid expr after) :
      Reads (.parts done) input expr after
  | flags {done input rest change inside expr after} (hopen : input.skip.rest = '(' :: rest)
      (hstart : readGroupStart? input.skip = some (.flags change, inside))
      (hmore : Reads (.parts (.flags change :: done))
        { inside with verbose := (valueOf? .verbose change).getD input.skip.verbose } expr after) :
      Reads (.parts done) input expr after
  | group {done input rest change inside body mid rest' expr after}
      (hopen : input.skip.rest = '(' :: rest)
      (hstart : readGroupStart? input.skip = some (.group change, inside))
      (hbody : Reads (.branches [])
        { inside with verbose := (valueOf? .verbose change).getD input.skip.verbose } body mid)
      (hclose : mid.rest = ')' :: rest')
      (hmore : Reads (.parts (.group change body :: done))
        { mid with rest := rest', verbose := input.skip.verbose } expr after) :
      Reads (.parts done) input expr after
  | capture {done input rest inside body mid rest' expr after}
      (hopen : input.skip.rest = '(' :: rest)
      (hstart : readGroupStart? input.skip = some (.capture, inside))
      (hbody : Reads (.branches []) inside body mid) (hclose : mid.rest = ')' :: rest')
      (hmore : Reads (.parts (.capture body :: done))
        { mid with rest := rest', verbose := input.skip.verbose } expr after) :
      Reads (.parts done) input expr after

variable {stage : Stage} {done : List Expr} {bound : Nat}

/-- Reading stage by stage, with a bound on the number of steps. -/
def readStage? (bound : Nat) : Stage → Input → Option (Expr × Input)
  | .branches done => readEither? bound done
  | .parts done => readSequence? bound done

/-- What is read within a bound follows the rules, at every stage of reading. -/
theorem reads_of_readStage? (h : readStage? bound stage input = some (expr, after)) :
    Reads stage input expr after := by
  induction bound generalizing stage input expr after with
  | zero => cases stage <;> cases h
  | succ bound ih =>
    cases stage with
    | branches done =>
      simp only [readStage?, readEither?] at h
      obtain ⟨⟨branch, mid⟩, hbranch, h⟩ := Option.bind_eq_some_iff.mp h
      simp only at h
      split at h
      · next hbar => exact .bar (ih hbranch) hbar (ih h)
      · next hbar =>
        cases h
        refine .last (ih hbranch) fun hhead => ?_
        obtain ⟨rest, hrest⟩ := List.head?_eq_some_iff.mp hhead
        exact hbar rest hrest
    | parts done =>
      simp only [readStage?, readSequence?] at h
      split at h
      · next hnil =>
        cases h
        exact .stop (by simp [EndsParts, hnil])
      · next hbar =>
        cases h
        exact .stop (by simp [EndsParts, hbar])
      · next hclose =>
        cases h
        exact .stop (by simp [EndsParts, hclose])
      · next hopen =>
        obtain ⟨⟨start, inside⟩, hstart, h⟩ := Option.bind_eq_some_iff.mp h
        simp only at h
        split at h
        · -- flags for the rest of the branch; the other two starts have a body
          exact .flags hopen hstart (ih h)
        · obtain ⟨⟨body, mid⟩, hbody, h⟩ := Option.bind_eq_some_iff.mp h
          simp only at h
          split at h
          · next hclose => exact .group hopen hstart (ih hbody) hclose (ih h)
          · cases h
        · obtain ⟨⟨body, mid⟩, hbody, h⟩ := Option.bind_eq_some_iff.mp h
          simp only at h
          split at h
          · next hclose => exact .capture hopen hstart (ih hbody) hclose (ih h)
          · cases h
      · next hbracket =>
        obtain ⟨⟨part, mid⟩, hread, h⟩ := Option.bind_eq_some_iff.mp h
        exact .part (by simp only [readPart?, hbracket, hread]) (ih h)
      iterate 3
        next hmark =>
          obtain ⟨done', hdone, h⟩ := Option.bind_eq_some_iff.mp h
          exact .repetition (by simp only [readRepetition?, hmark]) hdone (ih h)
      · next hmark =>
        obtain ⟨⟨least, most, mid⟩, hbounds, h⟩ := Option.bind_eq_some_iff.mp h
        obtain ⟨done', hdone, h⟩ := Option.bind_eq_some_iff.mp h
        exact .repetition (by simp only [readRepetition?, hmark, hbounds]) hdone (ih h)
      · next hescape =>
        obtain ⟨⟨part, mid⟩, hread, h⟩ := Option.bind_eq_some_iff.mp h
        exact .part (by simp only [readPart?, hescape, hread]) (ih h)
      iterate 3
        next hsymbol => exact .part (by simp only [readPart?, hsymbol]; rfl) (ih h)
      · -- any character that means nothing else stands for itself
        next c _ hbar hclose hopen hbracket hquery hstar hplus hbrace hback hdot hcaret hdollar
          hrest =>
        have hreserved : c ∉ reserved := by
          simp only [reserved, List.mem_cons, List.not_mem_nil, or_false, not_or]
          exact ⟨hbar, hclose, hopen, hbracket, hquery, hstar, hplus, hbrace, hback⟩
        refine .part ?_ (ih h)
        simp only [readPart?, hrest, symbol?_literal hreserved hdot hcaret hdollar]
        rfl

/-- The number of steps that is enough to read an input of a given length. -/
def Stage.steps : Stage → (length : Nat) → Nat
  | .branches _, length => 2 * length + 2
  | .parts _, length => 2 * length + 1

/-- A character that is a part by itself is put to the parts read so far. -/
theorem readSequence?_symbol {c : Char} {rest : Text} (hrest : input.skip.rest = c :: rest)
    (hsymbol : symbol? c = some part) :
    readSequence? (bound + 1) done input = readSequence? bound (part :: done) (input.skip.drop 1) := by
  have hsame : ∀ {c' rest'}, input.skip.rest = c' :: rest' → symbol? c' = some part := by
    intro c' rest' heq
    rw [hrest] at heq
    rwa [← (List.cons.inj heq).1]
  simp only [readSequence?]
  split
  · next hnil => cases hrest.symm.trans hnil
  -- the other nine forms start with a character that is reserved
  iterate 9 next heq => exact absurd (hsame heq) (by simp [symbol?, reserved])
  iterate 3
    next heq =>
      have hpart := hsame heq
      simp only [symbol?, reserved] at hpart
      cases hpart
      rfl
  · next c' _ _ _ _ _ _ _ _ _ _ hdot hcaret hdollar heq =>
    have hpart := hsame heq
    have hreserved : c' ∉ reserved := by
      intro hmem
      rw [symbol?, if_pos hmem] at hpart
      cases hpart
    rw [symbol?_literal hreserved hdot hcaret hdollar] at hpart
    cases hpart
    rfl

/-- A bracket or an escape is put to the parts read so far. -/
theorem readSequence?_part {mid : Input} (hpart : readPart? input.skip = some (part, mid)) :
    readSequence? (bound + 1) done input = readSequence? bound (part :: done) mid := by
  simp only [readPart?] at hpart
  split at hpart
  · cases hpart
  · next hbracket =>
    simp only [readSequence?, hbracket, hpart]
    rfl
  · next hescape =>
    simp only [readSequence?, hescape, hpart]
    rfl
  · next hrest =>
    obtain ⟨part, hsymbol, h⟩ := Option.map_eq_some_iff.mp hpart
    cases h
    exact readSequence?_symbol hrest hsymbol

/-- A repetition is applied to the last part read so far. -/
theorem readSequence?_repetition {least : Nat} {most : Option Nat} {mid : Input}
    {done' : List Expr} (hbounds : readRepetition? input.skip = some (least, most, mid))
    (hdone : repeatLast? least most done = some done') :
    readSequence? (bound + 1) done input = readSequence? bound done' mid := by
  simp only [readRepetition?] at hbounds
  split at hbounds
  iterate 3
    · next hmark =>
      cases hbounds
      simp only [readSequence?, hmark, hdone]
      rfl
  · next hbrace =>
    simp only [readSequence?, hbrace, hbounds, Option.bind_eq_bind, Option.bind_some, hdone]
  · cases hbounds

/-- Where no part can follow, the parts read so far are the sequence. -/
theorem readSequence?_stop (hstop : EndsParts input.skip.rest) :
    readSequence? (bound + 1) done input = some (sequenceOf done.reverse, input.skip) := by
  cases hrest : input.skip.rest with
  | nil => simp only [readSequence?, hrest]
  | cons c rest =>
    rw [hrest] at hstop
    rcases hstop c rfl with rfl | rfl <;> simp only [readSequence?, hrest]

/-- Whatever is read, what is left is a suffix of the input. -/
theorem Reads.suffix (h : Reads stage input expr after) : after.rest <:+ input.rest := by
  have htail : ∀ {text : Text} {input : Input}, text <:+ input.skip.rest.tail →
      text <:+ input.rest := fun htext =>
    htext.trans ((List.tail_suffix _).trans (skip_suffix _))
  have hclosed : ∀ {mid : Input} {c : Char} {rest : Text}, mid.rest = c :: rest →
      rest <:+ mid.rest := fun hrest => hrest ▸ List.suffix_cons _ _
  induction h with
  | last hbranch hend ih => exact ih
  | bar hbranch hbar hmore ihbranch ihmore => exact ihmore.trans ((drop_suffix _ 1).trans ihbranch)
  | stop => exact skip_suffix _
  | part hpart hmore ih => exact ih.trans (htail (readPart?_suffix hpart))
  | repetition hbounds hdone hmore ih => exact ih.trans (htail (readRepetition?_suffix hbounds))
  | flags hopen hstart hmore ih =>
    have hinside := readGroupStart?_suffix hstart
    exact ih.trans (htail hinside)
  | group hopen hstart hbody hclose hmore ihbody ihmore =>
    have hinside := readGroupStart?_suffix hstart
    exact ihmore.trans ((hclosed hclose).trans (ihbody.trans (htail hinside)))
  | capture hopen hstart hbody hclose hmore ihbody ihmore =>
    exact ihmore.trans ((hclosed hclose).trans (ihbody.trans
      (htail (readGroupStart?_suffix hstart))))

/-- The steps that are left are enough behind the first character. -/
theorem steps_le_of_suffix {mid : Input} (hne : input.skip.rest ≠ [])
    (hsuffix : mid.rest <:+ input.rest.tail) (hbound : 2 * input.rest.length + 1 ≤ bound + 1)
    (stage : Stage) : stage.steps mid.rest.length ≤ bound := by
  obtain ⟨c, rest, hrest⟩ := List.exists_cons_of_ne_nil hne
  have hlt := length_lt_of_suffix hrest hsuffix (Nat.lt_succ_self _)
  cases stage <;> simp only [Stage.steps] <;> omega

/-- A bound that is large enough for a stage leaves room for a step. -/
theorem Stage.exists_bound {length : Nat} (h : stage.steps length ≤ bound) :
    ∃ steps, bound = steps + 1 := by
  refine Nat.exists_eq_add_one_of_ne_zero ?_
  rintro rfl
  cases stage <;> exact absurd h (Nat.not_succ_le_zero _)

/-- What follows the rules is read within every bound that is large enough for the length of the
input. -/
theorem readStage?_of_reads (h : Reads stage input expr after)
    (hbound : stage.steps input.rest.length ≤ bound) :
    readStage? bound stage input = some (expr, after) := by
  -- a step to the parts of a branch reads nothing, so branches need one step more than parts; every
  -- other step reads a character at least, which pays for two
  induction h generalizing bound with
  | @last done input branch after hbranch hend ih =>
    obtain ⟨bound, rfl⟩ := Stage.exists_bound hbound
    have hread : readSequence? bound [] input = some (branch, after) :=
      ih (Nat.le_of_succ_le_succ hbound)
    simp only [readStage?, readEither?, hread, Option.bind_eq_bind, Option.bind_some]
    split
    · next hbar => exact (hend (by rw [hbar]; rfl)).elim
    · rfl
  | @bar done input branch mid rest expr after hbranch hbar hmore ihbranch ihmore =>
    obtain ⟨bound, rfl⟩ := Stage.exists_bound hbound
    have hread : readSequence? bound [] input = some (branch, mid) :=
      ihbranch (Nat.le_of_succ_le_succ hbound)
    simp only [readStage?, readEither?, hread, Option.bind_eq_bind, Option.bind_some, hbar]
    refine ihmore ?_
    have hle := hbranch.suffix.length_le
    simp only [Stage.steps, drop, hbar, List.drop_succ_cons, List.drop_zero] at hbound ⊢
    rw [hbar, List.length_cons] at hle
    omega
  | stop hstop =>
    obtain ⟨bound, rfl⟩ := Stage.exists_bound hbound
    exact readSequence?_stop hstop
  | @part done input part mid expr after hpart hmore ih =>
    obtain ⟨bound, rfl⟩ := Stage.exists_bound hbound
    have hmid := (readPart?_suffix hpart).trans (tail_skip_suffix _)
    have hne : input.skip.rest ≠ [] := by
      intro hnil
      simp [readPart?, hnil] at hpart
    rw [readStage?, readSequence?_part hpart]
    exact ih (steps_le_of_suffix hne hmid hbound _)
  | @repetition done input least most mid done' expr after hbounds hdone hmore ih =>
    obtain ⟨bound, rfl⟩ := Stage.exists_bound hbound
    have hmid := (readRepetition?_suffix hbounds).trans (tail_skip_suffix _)
    have hne : input.skip.rest ≠ [] := by
      intro hnil
      simp [readRepetition?, hnil] at hbounds
    rw [readStage?, readSequence?_repetition hbounds hdone]
    exact ih (steps_le_of_suffix hne hmid hbound _)
  | @flags done input rest change inside expr after hopen hstart hmore ih =>
    obtain ⟨bound, rfl⟩ := Stage.exists_bound hbound
    have hinside := (readGroupStart?_suffix hstart).trans (tail_skip_suffix _)
    have hne : input.skip.rest ≠ [] := by simp [hopen]
    simp only [readStage?, readSequence?, hopen, hstart, Option.bind_eq_bind, Option.bind_some]
    exact ih (steps_le_of_suffix hne hinside hbound _)
  | @group done input rest change inside body mid rest' expr after hopen hstart hbody hclose hmore
      ihbody ihmore =>
    obtain ⟨bound, rfl⟩ := Stage.exists_bound hbound
    have hinside := (readGroupStart?_suffix hstart).trans (tail_skip_suffix _)
    have hmid := hbody.suffix.trans hinside
    have hne : input.skip.rest ≠ [] := by simp [hopen]
    have hread := ihbody (steps_le_of_suffix hne hinside hbound _)
    rw [readStage?] at hread
    simp only [readStage?, readSequence?, hopen, hstart, Option.bind_eq_bind, Option.bind_some,
      hread, hclose]
    rw [hclose] at hmid
    exact ihmore (steps_le_of_suffix hne ((List.suffix_cons _ _).trans hmid) hbound _)
  | @capture done input rest inside body mid rest' expr after hopen hstart hbody hclose hmore
      ihbody ihmore =>
    obtain ⟨bound, rfl⟩ := Stage.exists_bound hbound
    have hinside := (readGroupStart?_suffix hstart).trans (tail_skip_suffix _)
    have hmid := hbody.suffix.trans hinside
    have hne : input.skip.rest ≠ [] := by simp [hopen]
    have hread := ihbody (steps_le_of_suffix hne hinside hbound _)
    rw [readStage?] at hread
    simp only [readStage?, readSequence?, hopen, hstart, Option.bind_eq_bind, Option.bind_some,
      hread, hclose]
    rw [hclose] at hmid
    exact ihmore (steps_le_of_suffix hne ((List.suffix_cons _ _).trans hmid) hbound _)

/-- Alternatives that are read within a bound follow the rules. -/
theorem reads_of_readEither? (h : readEither? bound done input = some (expr, after)) :
    Reads (.branches done) input expr after := by
  have hstage : readStage? bound (.branches done) input = some (expr, after) := h
  exact reads_of_readStage? hstage

/-- Alternatives that follow the rules are read within a bound that is large enough. -/
theorem readEither?_of_reads (h : Reads (.branches done) input expr after)
    (hbound : 2 * input.rest.length + 2 ≤ bound) :
    readEither? bound done input = some (expr, after) := by
  have hsteps : (Stage.branches done).steps input.rest.length ≤ bound := hbound
  have hread := readStage?_of_reads h hsteps
  rwa [readStage?] at hread

/-! ## Readings before a closing -/

/-- An opening brace is not ignored. -/
theorem skip_of_brace {rest : Text} (hrest : input.rest = '{' :: rest) : input.skip = input := by
  have hblank : Unicode.isBlank '{' = false := by decide
  rw [skip]
  split
  · simp only [hrest, dropIgnored, hblank]
    rw [← hrest]
    rfl
  · rfl

/-- Nothing is read of a brace that only the closing follows. -/
theorem not_reads_brace {rest : Text} (hrest : input.rest = '{' :: rest)
    (hnext : input.next.rest = []) : ¬ Reads (.parts done) input.closed expr after := by
  have hclosed : input.closed.skip.rest = '{' :: (rest ++ closing) := by
    have hbrace : input.closed.rest = '{' :: (rest ++ closing) := by rw [closed_rest, hrest]; rfl
    rw [skip_of_brace hbrace, hbrace]
  have hskip : input.closed.skip = input.closed := skip_of_brace (by rw [closed_rest, hrest]; rfl)
  intro h
  cases h with
  | stop hstop =>
    rw [hclosed] at hstop
    exact absurd (hstop '{' rfl) (by decide)
  | part hpart =>
    simp [readPart?, hclosed, symbol?, reserved] at hpart
  | repetition hbounds =>
    simp only [readRepetition?, hclosed] at hbounds
    rw [hskip] at hbounds
    exact not_readsBounds_closed hrest hnext (readBounds?_eq_some_iff.mp hbounds)
  | flags hopen | group hopen | capture hopen =>
    rw [hclosed] at hopen
    cases hopen

/-- Where a sequence ends before the closing, it ends without it as well. -/
theorem endsParts_of_append_closing {text : Text} (h : EndsParts (text ++ closing)) :
    EndsParts text := by
  intro c hc
  refine h c ?_
  rw [head?_append_closing, hc]
  rfl

/-- The start of a group, with ignored characters before it, is read without the closing if it
leaves all of that. -/
theorem readGroupStart?_skip_closed {start : GroupStart} {rest : Text}
    (hopen : input.closed.skip.rest = '(' :: rest)
    (hstart : readGroupStart? input.closed.skip = some (start, after))
    (hlong : 2 ≤ after.rest.length) :
    input.closed.skip = input.skip.closed ∧ (∃ rest, input.skip.rest = '(' :: rest) ∧
      ∃ left : Input, after = left.closed ∧ readGroupStart? input.skip = some (start, left) := by
  have hskip := skip_closed (Nat.le_trans hlong ((readGroupStart?_suffix hstart).trans
    (List.tail_suffix _)).length_le)
  rw [hskip] at hopen hstart
  obtain ⟨rest', hopen', -⟩ := rest_of_closed hopen (by decide)
  exact ⟨hskip, ⟨rest', hopen'⟩, readGroupStart?_closed hopen' hstart hlong⟩

/-- A reading that leaves all of the closing behind an input is a reading of the input. -/
theorem Reads.closed (h : Reads stage input.closed expr after) (hlong : 2 ≤ after.rest.length) :
    ∃ left : Input, after = left.closed ∧ Reads stage input expr left := by
  -- as all of the closing is left in the end, it was left at every step before
  generalize hclosed : input.closed = start at h
  induction h generalizing input with
  | last hbranch hend ih =>
    obtain ⟨left, rfl, hbranch'⟩ := ih hlong hclosed
    refine ⟨left, rfl, .last hbranch' fun hbar => hend ?_⟩
    rw [closed_rest, head?_append_closing, hbar]
    rfl
  | @bar done _ branch mid rest expr after hbranch hbar hmore ihbranch ihmore =>
    have hdrop := Nat.le_trans hlong hmore.suffix.length_le
    obtain ⟨left, rfl, hbranch'⟩ :=
      ihbranch (Nat.le_trans hdrop (drop_suffix mid 1).length_le) hclosed
    obtain ⟨rest', hbar', -⟩ := rest_of_closed hbar (by decide)
    obtain ⟨last, hlast, hmore'⟩ := ihmore hlong (drop_one_closed hbar').symm
    exact ⟨last, hlast, .bar hbranch' hbar' hmore'⟩
  | stop hstop =>
    subst hclosed
    rw [skip_closed hlong] at hstop ⊢
    exact ⟨input.skip, rfl, .stop (endsParts_of_append_closing hstop)⟩
  | @part done _ part mid expr after hpart hmore ih =>
    subst hclosed
    have hmid := Nat.le_trans hlong hmore.suffix.length_le
    rw [skip_closed (Nat.le_trans hmid ((readPart?_suffix hpart).trans
      (List.tail_suffix _)).length_le)] at hpart
    obtain ⟨left, rfl, hpart' | ⟨⟨rest, hbrace⟩, hnext⟩⟩ := readPart?_closed hpart hmid
    · obtain ⟨last, hlast, hmore'⟩ := ih hlong rfl
      exact ⟨last, hlast, .part hpart' hmore'⟩
    · -- the boundary before a brace that only the closing follows: nothing is read of the brace
      exact (not_reads_brace hbrace hnext hmore).elim
  | @repetition done _ least most mid done' expr after hbounds hdone hmore ih =>
    subst hclosed
    have hmid := Nat.le_trans hlong hmore.suffix.length_le
    rw [skip_closed (Nat.le_trans hmid ((readRepetition?_suffix hbounds).trans
      (List.tail_suffix _)).length_le)] at hbounds
    obtain ⟨left, rfl, hbounds'⟩ := readRepetition?_closed hbounds hmid
    obtain ⟨last, hlast, hmore'⟩ := ih hlong rfl
    exact ⟨last, hlast, .repetition hbounds' hdone hmore'⟩
  | @flags done _ rest change inside expr after hopen hstart hmore ih =>
    subst hclosed
    have hinside : 2 ≤ inside.rest.length := Nat.le_trans hlong hmore.suffix.length_le
    obtain ⟨hskip, ⟨rest', hopen'⟩, left, rfl, hstart'⟩ :=
      readGroupStart?_skip_closed hopen hstart hinside
    rw [hskip] at ih
    obtain ⟨last, hlast, hmore'⟩ := @ih { left with verbose := _ } hlong rfl
    exact ⟨last, hlast, .flags hopen' hstart' hmore'⟩
  | @group done _ rest change inside body mid rest' expr after hopen hstart hbody hclose hmore
      ihbody ihmore =>
    subst hclosed
    have hrest : 2 ≤ rest'.length := Nat.le_trans hlong hmore.suffix.length_le
    have hmid : 2 ≤ mid.rest.length := hclose ▸ Nat.le_succ_of_le hrest
    have hinside : 2 ≤ inside.rest.length := Nat.le_trans hmid hbody.suffix.length_le
    obtain ⟨hskip, ⟨rest, hopen'⟩, left, rfl, hstart'⟩ :=
      readGroupStart?_skip_closed hopen hstart hinside
    rw [hskip] at ihbody ihmore
    obtain ⟨mid, rfl, hbody'⟩ := @ihbody { left with verbose := _ } hmid rfl
    -- all of the closing is left behind the parenthesis, so it is one of the input
    obtain ⟨rest', hclose', rfl⟩ := cons_of_append_closing_of_le hclose hrest
    obtain ⟨last, hlast, hmore'⟩ := @ihmore { mid with rest := rest', verbose := _ } hlong rfl
    exact ⟨last, hlast, .group hopen' hstart' hbody' hclose' hmore'⟩
  | @capture done _ rest inside body mid rest' expr after hopen hstart hbody hclose hmore
      ihbody ihmore =>
    subst hclosed
    have hrest : 2 ≤ rest'.length := Nat.le_trans hlong hmore.suffix.length_le
    have hmid : 2 ≤ mid.rest.length := hclose ▸ Nat.le_succ_of_le hrest
    have hinside : 2 ≤ inside.rest.length := Nat.le_trans hmid hbody.suffix.length_le
    obtain ⟨hskip, ⟨rest, hopen'⟩, left, rfl, hstart'⟩ :=
      readGroupStart?_skip_closed hopen hstart hinside
    rw [hskip] at ihmore
    obtain ⟨mid, rfl, hbody'⟩ := ihbody hmid rfl
    obtain ⟨rest', hclose', rfl⟩ := cons_of_append_closing_of_le hclose hrest
    obtain ⟨last, hlast, hmore'⟩ := @ihmore { mid with rest := rest', verbose := _ } hlong rfl
    exact ⟨last, hlast, .capture hopen' hstart' hbody' hclose' hmore'⟩

end JvmSource.Pattern
