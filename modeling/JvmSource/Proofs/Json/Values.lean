import Mathlib.Tactic.Common
import JvmSource.Proofs.Json.Numbers
import JvmSource.Proofs.Json.Strings

/-!
# Values are read as they are spelled

Every spelling of a value is read as this value, as long as its arrays and objects lie no deeper
inside one another than the reader goes (`parse?_of_isTextOf`).
-/

namespace JvmSource.Json

variable {before spelled rest : Text} {json : Json} {depth : Nat}

/-- Whitespace ends a number. -/
theorem not_continues_of_isSpace {c : Char} (h : isSpace c = true) : continuesNumber c = false := by
  simp only [isSpace, Bool.or_eq_true, beq_iff_eq] at h
  rcases h with ((rfl | rfl) | rfl) | rfl <;> decide

theorem Blank.stopsAt {after : Text} (h : Blank after) : StopsAt continuesNumber after := by
  intro c hc
  exact not_continues_of_isSpace (h c (List.mem_of_head? hc))

theorem stopsAt_cons {c : Char} (h : continuesNumber c = false) (rest : Text) :
    StopsAt continuesNumber (c :: rest) := by
  intro c' hc'
  rw [← Option.some.inj hc']
  exact h

theorem skipSpace_append (h : Blank before) {c : Char} (hc : isSpace c = false) (rest : Text) :
    skipSpace (before ++ c :: rest) = c :: rest := by
  rw [skipSpace, List.dropWhile_append_of_pos h]
  exact List.dropWhile_cons_of_neg (by simp [hc])

theorem skipSpace_blank (h : Blank before) : skipSpace before = [] := by
  rw [skipSpace, ← List.append_nil before, List.dropWhile_append_of_pos h]
  rfl

/-! ## Items -/

section

variable {α : Type} {Spells : α → Text → Prop} {readItem? : Text → Option (α × Text)} {item : α}
  {items : List α} {closing : Char}

/-- Whether any spelling of an item is read as this item, before something that ends it. -/
structure ReadsItem (Spells : α → Text → Prop) (readItem? : Text → Option (α × Text))
    (closing : Char) (item : α) : Prop where
  starts : ∀ spelled, Spells item spelled →
    ∃ c rest, spelled = c :: rest ∧ isSpace c = false ∧ c ≠ closing
  reads : ∀ before spelled rest, Blank before → Spells item spelled →
    StopsAt continuesNumber rest → readItem? (before ++ (spelled ++ rest)) = some (item, rest)

/-- Whether a character can close a group. -/
structure IsClosing (closing : Char) : Prop where
  isSpace : isSpace closing = false
  ne_comma : closing ≠ ','
  stops : continuesNumber closing = false

/-- Items take at least one character for each comma between them, so there is at most one more of
them than there are characters. -/
theorem SpellsItems.length_le (h : SpellsItems Spells items spelled) :
    items.length ≤ spelled.length + 1 := by
  induction h with
  | last => simp
  | cons _ _ _ _ ih =>
    simp only [List.length_cons, List.length_append]
    omega

/-- Spelled items are read as these items, when the bound on their number is large enough. -/
theorem readItems?_append (hclosing : IsClosing closing) (h : SpellsItems Spells items spelled)
    (hitems : ∀ item ∈ items, ReadsItem Spells readItem? closing item) {bound : Nat}
    (hbound : items.length ≤ bound) (rest : Text) :
    readItems? readItem? closing bound (spelled ++ closing :: rest) = some (items, rest) := by
  induction h generalizing bound with
  | @last item before spelled after hbefore h hafter =>
    obtain ⟨bound, rfl⟩ : ∃ n, bound = n + 1 := ⟨bound - 1, by simp at hbound; omega⟩
    have hread := (hitems item List.mem_cons_self).reads before spelled (after ++ closing :: rest)
      hbefore h (stopsAt_append hafter.stopsAt fun _ => stopsAt_cons hclosing.stops rest)
    have hsame : before ++ (spelled ++ after) ++ closing :: rest =
        before ++ (spelled ++ (after ++ closing :: rest)) := by simp only [List.append_assoc]
    rw [hsame, readItems?, hread]
    simp only [Option.bind_eq_bind, Option.bind_some]
    rw [skipSpace_append hafter hclosing.isSpace]
    -- no comma comes next, so this was the last item
    simp [hclosing.ne_comma]
  | @cons item items before spelled after more hbefore h hafter hmore ih =>
    obtain ⟨bound, rfl⟩ : ∃ n, bound = n + 1 := ⟨bound - 1, by simp at hbound; omega⟩
    have hcomma : continuesNumber ',' = false := by decide
    have hread := (hitems item List.mem_cons_self).reads before spelled
      (after ++ ',' :: (more ++ closing :: rest)) hbefore h
      (stopsAt_append hafter.stopsAt fun _ => stopsAt_cons hcomma _)
    have hsame : before ++ (spelled ++ (after ++ ',' :: more)) ++ closing :: rest =
        before ++ (spelled ++ (after ++ ',' :: (more ++ closing :: rest))) := by
      simp only [List.append_assoc, List.cons_append]
    have hrest : readItems? readItem? closing bound (more ++ closing :: rest) = some (items, rest) :=
      ih (fun item hitem => hitems item (List.mem_cons_of_mem _ hitem)) (by simpa using hbound)
    rw [hsame, readItems?, hread]
    simp only [Option.bind_eq_bind, Option.bind_some]
    rw [skipSpace_append hafter (by decide)]
    simp [hrest]

/-- What comes first between brackets does not close them. -/
theorem SpellsItems.head?_skipSpace (h : SpellsItems Spells items spelled)
    (hitems : ∀ item ∈ items, ReadsItem Spells readItem? closing item) (rest : Text) :
    (skipSpace (spelled ++ rest)).head? ≠ some closing := by
  obtain ⟨before, first, more, rfl, hbefore, c, first', rfl, hspace, hne⟩ : ∃ before first more,
      spelled = before ++ (first ++ more) ∧ Blank before ∧
        ∃ c rest, first = c :: rest ∧ isSpace c = false ∧ c ≠ closing := by
    cases h with
    | last hbefore h _ | cons hbefore h _ _ =>
      exact ⟨_, _, _, rfl, hbefore, (hitems _ List.mem_cons_self).starts _ h⟩
  have hsame : before ++ (c :: first' ++ more) ++ rest = before ++ c :: (first' ++ (more ++ rest)) := by
    simp
  rw [hsame, skipSpace_append hbefore hspace]
  simpa using hne

/-- A spelled group is read as its items up to its closing bracket, with no bound to choose. -/
theorem readGroup?_append (hclosing : IsClosing closing) (h : SpellsGroup Spells items spelled)
    (hitems : ∀ item ∈ items, ReadsItem Spells readItem? closing item) (rest : Text) :
    readGroup? readItem? closing (spelled ++ closing :: rest) = some (items, rest) := by
  cases h with
  | empty hblank =>
    rw [readGroup?, skipSpace_append hblank hclosing.isSpace]
    simp
  | items h =>
    have hlength := h.length_le
    have hbound : items.length ≤ (spelled ++ closing :: rest).length := by
      rw [List.length_append, List.length_cons]
      omega
    rw [readGroup?, if_neg (h.head?_skipSpace hitems _)]
    exact readItems?_append hclosing h hitems hbound rest

end

theorem isClosing_bracket : IsClosing ']' := ⟨by decide, by decide, by decide⟩

theorem isClosing_brace : IsClosing '\x7d' := ⟨by decide, by decide, by decide⟩

/-! ## Values that hold no other value -/

/-- What a number can start with is neither white space nor one of the characters that other values
start or end with. -/
theorem ne_of_startsNumber {c other : Char} (hc : c = '-' ∨ c.isDigit = true)
    (hother : (other == '-' || other.isDigit) = false) : c ≠ other := by
  rintro rfl
  rcases hc with rfl | hdigit
  · exact absurd hother (by decide)
  · rw [hdigit, Bool.or_true] at hother
    exact Bool.noConfusion hother

/-- No number starts with whitespace. -/
theorem isSpace_of_startsNumber {c : Char} (hc : c = '-' ∨ c.isDigit = true) :
    isSpace c = false := by
  have hspace : c ≠ ' ' := ne_of_startsNumber hc (by decide)
  have htab : c ≠ '\t' := ne_of_startsNumber hc (by decide)
  have hline : c ≠ '\n' := ne_of_startsNumber hc (by decide)
  have hreturn : c ≠ '\r' := ne_of_startsNumber hc (by decide)
  simp [isSpace, hspace, htab, hline, hreturn]

/-- What a value can start with. -/
theorem Spells.exists_cons (h : json.Spells spelled) :
    ∃ c rest, spelled = c :: rest ∧ isSpace c = false ∧ c ≠ ']' ∧ c ≠ '\x7d' := by
  have hnumber : ∀ c : Char, c = '-' ∨ c.isDigit = true →
      isSpace c = false ∧ c ≠ ']' ∧ c ≠ '\x7d' := by
    intro c hc
    exact ⟨isSpace_of_startsNumber hc, ne_of_startsNumber hc (by decide),
      ne_of_startsNumber hc (by decide)⟩
  cases h with
  | null | string | array | object => exact ⟨_, _, rfl, by decide, by decide, by decide⟩
  | bool value => cases value <;> exact ⟨_, _, rfl, by decide, by decide, by decide⟩
  | integer =>
    obtain ⟨c, rest, heq, hc⟩ := (spellsNumber_decimal _).exists_cons
    exact ⟨c, rest, heq, hnumber c hc⟩
  | real h =>
    obtain ⟨c, rest, heq, hc⟩ := h.exists_cons
    exact ⟨c, rest, heq, hnumber c hc⟩

/-- What starts like a number is read as a number. -/
theorem readScalar?_number {c : Char} (hc : c = '-' ∨ c.isDigit = true) (rest : Text) :
    readScalar? (c :: rest) = readNumber? (c :: rest) := by
  have hn : c ≠ 'n' := ne_of_startsNumber hc (by decide)
  have ht : c ≠ 't' := ne_of_startsNumber hc (by decide)
  have hf : c ≠ 'f' := ne_of_startsNumber hc (by decide)
  have hquote : c ≠ '"' := ne_of_startsNumber hc (by decide)
  rw [readScalar?]
  all_goals
    intros
    simp_all

/-- Where no value starts that holds others, one is read that holds none. -/
theorem readValue?_of_scalar (hbefore : Blank before) {c : Char} (hspace : isSpace c = false)
    (hbracket : c ≠ '[') (hbrace : c ≠ '\x7b') (depth : Nat) (rest : Text) :
    readValue? depth (before ++ c :: rest) = readScalar? (c :: rest) := by
  cases depth with
  | zero => rw [readValue?, skipSpace_append hbefore hspace]
  | succ depth =>
    rw [readValue?, skipSpace_append hbefore hspace]
    simp [hbracket, hbrace]

/-- A spelled number is read as its value, whatever whitespace stands before it. -/
theorem readValue?_number {negative : Bool} {whole fraction : Text} {exponent : Option Int}
    (h : SpellsNumber negative whole fraction exponent spelled)
    (hvalue : ofNumber? negative whole fraction exponent = some json) (hbefore : Blank before)
    (hrest : StopsAt continuesNumber rest) :
    readValue? depth (before ++ (spelled ++ rest)) = some (json, rest) := by
  have hread := readNumber?_append h hvalue hrest
  obtain ⟨c, more, rfl, hc⟩ := h.exists_cons
  rw [List.cons_append, readValue?_of_scalar hbefore (isSpace_of_startsNumber hc)
    (ne_of_startsNumber hc (by decide)) (ne_of_startsNumber hc (by decide)),
    readScalar?_number hc]
  exact hread

/-- A value that holds no other value is read at any depth. -/
theorem readValue?_scalar (h : json.Spells spelled) (harray : ∀ items, json ≠ .array items)
    (hobject : ∀ members, json ≠ .object members) (hbefore : Blank before)
    (hrest : StopsAt continuesNumber rest) :
    readValue? depth (before ++ (spelled ++ rest)) = some (json, rest) := by
  cases h with
  | null => exact readValue?_of_scalar hbefore (by decide) (by decide) (by decide) depth _
  | bool value =>
    cases value <;> exact readValue?_of_scalar hbefore (by decide) (by decide) (by decide) depth _
  | integer hleast hgreatest =>
    exact readValue?_number (spellsNumber_decimal _) (ofNumber?_toDigits hleast hgreatest) hbefore
      hrest
  | real h hvalue => exact readValue?_number h hvalue hbefore hrest
  | @string text spelled h =>
    have hread := readString?_append h rest
    rw [List.cons_append, List.append_assoc,
      readValue?_of_scalar hbefore (by decide) (by decide) (by decide) depth]
    simp [readScalar?, hread]
  | array => exact absurd rfl (harray _)
  | object => exact absurd rfl (hobject _)

/-! ## Values -/

/-- A spelled member is read as its key and its value. -/
theorem readMember?_append {readValue? : Text → Option (Json × Text)} {key : Text} {value : Json}
    (h : SpellsMember Spells (key, value) spelled)
    (hread : ReadsItem Spells readValue? '\x7d' value) (hbefore : Blank before)
    (hrest : StopsAt continuesNumber rest) :
    readMember? readValue? (before ++ (spelled ++ rest)) = some ((key, value), rest) := by
  cases h with
  | @mk _ keyText space after spelled _ hkey hspace hafter hvalue =>
    have hreadKey := readString?_append hkey (space ++ ':' :: (after ++ (spelled ++ rest)))
    have hreadValue := hread.reads after spelled rest hafter hvalue hrest
    have hsame : '"' :: (keyText ++ '"' :: (space ++ ':' :: (after ++ spelled))) ++ rest =
        '"' :: (keyText ++ '"' :: (space ++ ':' :: (after ++ (spelled ++ rest)))) := by simp
    rw [hsame, readMember?, skipSpace_append hbefore (by decide)]
    simp only [hreadKey, Option.bind_eq_bind, Option.bind_some]
    rw [skipSpace_append hspace (by decide)]
    simp [hreadValue]

/-- A value is read as it is spelled, if it is nested no deeper than the reader goes. -/
theorem readValue?_append (h : json.Spells spelled) (hfits : json.FitsIn depth)
    (hbefore : Blank before) (hrest : StopsAt continuesNumber rest) :
    readValue? depth (before ++ (spelled ++ rest)) = some (json, rest) := by
  induction depth generalizing json spelled before rest with
  | zero =>
    apply readValue?_scalar h _ _ hbefore hrest
    · rintro items rfl
      exact hfits
    · rintro members rfl
      exact hfits
  | succ depth ih =>
    -- what lies inside is nested one level less
    have hreads : ∀ {closing item}, closing = ']' ∨ closing = '\x7d' → item.FitsIn depth →
        ReadsItem Spells (readValue? depth) closing item := by
      intro closing item hclosing hitem
      constructor
      · intro spelled hspelled
        obtain ⟨c, rest, heq, hspace, hbracket, hbrace⟩ := hspelled.exists_cons
        rcases hclosing with rfl | rfl
        · exact ⟨c, rest, heq, hspace, hbracket⟩
        · exact ⟨c, rest, heq, hspace, hbrace⟩
      · intro before spelled rest hbefore hspelled hrest
        exact ih hspelled hitem hbefore hrest
    by_cases harray : ∃ items, json = .array items
    · obtain ⟨items, rfl⟩ := harray
      cases h with
      | @array _ spelled hgroup =>
        have hread := readGroup?_append isClosing_bracket hgroup
          (fun item hitem => hreads (Or.inl rfl) (hfits item hitem)) rest
        rw [List.cons_append, List.append_assoc, readValue?,
          skipSpace_append hbefore (by decide)]
        simp [hread]
    · by_cases hobject : ∃ members, json = .object members
      · obtain ⟨members, rfl⟩ := hobject
        cases h with
        | @object _ spelled hgroup =>
          have hmembers : ∀ member ∈ members, ReadsItem (SpellsMember Spells)
              (readMember? (readValue? depth)) '\x7d' member := by
            intro ⟨key, value⟩ hmember
            constructor
            · intro spelled hspelled
              cases hspelled
              exact ⟨_, _, rfl, by decide, by decide⟩
            · intro before spelled rest hbefore hspelled hrest
              exact readMember?_append hspelled (hreads (Or.inr rfl) (hfits _ hmember)) hbefore hrest
          have hread := readGroup?_append isClosing_brace hgroup hmembers rest
          rw [List.cons_append, List.append_assoc, readValue?,
            skipSpace_append hbefore (by decide)]
          simp [hread]
      · exact readValue?_scalar h (fun items heq => harray ⟨items, heq⟩)
          (fun members heq => hobject ⟨members, heq⟩) hbefore hrest

/-- A text that spells a value is parsed as this value. -/
theorem parse?_of_isTextOf {text : Text} (h : json.IsTextOf text) (hfits : json.FitsIn maxDepth) :
    parse? text = some json := by
  obtain ⟨hbefore, hspelled, hafter⟩ := h
  rename_i before spelled after
  rw [parse?, readValue?_append hspelled hfits hbefore hafter.stopsAt]
  simp [skipSpace_blank hafter]

end JvmSource.Json
