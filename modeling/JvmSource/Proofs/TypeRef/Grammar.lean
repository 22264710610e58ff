import Mathlib.Data.List.Basic
import Mathlib.Tactic.Common
import JvmSource.Proofs.TypeRef.Cuts
import JvmSource.Proofs.TypeRef.Descent

/-!
# The grammar of type references

A reference is a dotted path followed by any number of bracket groups, all on one line. What stands
inside a group is free, closing and opening brackets included, so groups next to each other can be
taken as one, and no more than two groups of different kinds are ever needed: `groups_iff_shape`.
A text is cut into names and a suffix exactly when these spell it in this grammar.
-/

namespace JvmSource

namespace Bracket

/-- A text between the two brackets of a kind. -/
def group (bracket : Bracket) (inner : Text) : Text :=
  bracket.opening :: (inner ++ [bracket.closing])

/-- The other kind of brackets. -/
def other : Bracket → Bracket
  | angle => square
  | square => angle

theorem eq_other_of_ne {first second : Bracket} (h : first ≠ second) : second = first.other := by
  cases first <;> cases second <;> first | rfl | exact absurd rfl h

/-- Two groups of one kind are one group, with the brackets between them inside. -/
theorem group_append_group (bracket : Bracket) (first second : Text) :
    bracket.group first ++ bracket.group second =
      bracket.group (first ++ bracket.closing :: bracket.opening :: second) := by
  simp [group]

end Bracket

namespace TypeRef

/-! ## Bracket groups -/

/-- Whether a text is made of bracket groups, whatever they hold. -/
inductive Groups : Text → Prop where
  | nil : Groups []
  | cons (bracket : Bracket) (inner : Text) {rest : Text} (groups : Groups rest) :
      Groups (bracket.group inner ++ rest)

/-- Whether a text is empty, one bracket group, or two of different kinds. -/
inductive SuffixShape : Text → Prop where
  | empty : SuffixShape []
  | one (bracket : Bracket) (inner : Text) : SuffixShape (bracket.group inner)
  | two {first second : Bracket} (differ : first ≠ second) (inner inner' : Text) :
      SuffixShape (first.group inner ++ second.group inner')

/-- One more group in front leaves the shape: it is taken together with the next group of its kind,
and what stands between them comes to lie inside. -/
theorem SuffixShape.cons (bracket : Bracket) (inner : Text) {rest : Text} (h : SuffixShape rest) :
    SuffixShape (bracket.group inner ++ rest) := by
  cases h with
  | empty =>
    rw [List.append_nil]
    exact .one bracket inner
  | one next inner' =>
    by_cases hnext : bracket = next
    · -- two groups of one kind are one group, which holds the brackets between them
      rw [← hnext, Bracket.group_append_group]
      exact .one bracket _
    · exact .two hnext inner inner'
  | @two next last differ inner' inner'' =>
    by_cases hnext : bracket = next
    · rw [← List.append_assoc, ← hnext, Bracket.group_append_group]
      exact .two (hnext ▸ differ) _ inner''
    · -- the last group is of the kind of the new one
      have hlast : last = bracket := by
        rw [Bracket.eq_other_of_ne differ, Bracket.eq_other_of_ne hnext]
        cases bracket <;> rfl
      have hone : bracket.group inner ++ (next.group inner' ++ last.group inner'') =
          bracket.group (inner ++ bracket.closing :: (next.group inner' ++
            bracket.opening :: inner'')) := by
        rw [hlast]
        simp [Bracket.group]
      rw [hone]
      exact .one bracket _

/-- Any number of bracket groups is none, one, or two of different kinds. -/
theorem groups_iff_shape {text : Text} : Groups text ↔ SuffixShape text := by
  constructor
  · intro h
    induction h with
    | nil => exact .empty
    | cons bracket inner groups ih => exact ih.cons bracket inner
  · intro h
    cases h with
    | empty => exact .nil
    | one bracket inner =>
      rw [← List.append_nil (bracket.group inner)]
      exact .cons bracket inner .nil
    | two differ inner inner' =>
      rw [← List.append_nil (Bracket.group _ inner')]
      exact .cons _ inner (.cons _ inner' .nil)

/-! ## Suffixes -/

/-- The test for two characters in a row finds every place where they stand. -/
theorem hasPair_iff {first second : Char} {text : Text} :
    hasPair first second text = true ↔
      ∃ before after, text = before ++ first :: second :: after := by
  induction text with
  | nil => simp [hasPair]
  | cons a rest ih =>
    cases rest with
    | nil =>
      constructor
      · intro h
        exact absurd h (by simp [hasPair])
      · intro ⟨before, after, h⟩
        have hlength := congrArg List.length h
        simp only [List.length_append, List.length_cons, List.length_nil] at hlength
        omega
    | cons b rest =>
      rw [hasPair, Bool.or_eq_true, ih]
      constructor
      · intro h
        rcases h with h | ⟨before, after, h⟩
        · simp only [Bool.and_eq_true, beq_iff_eq] at h
          exact ⟨[], rest, by rw [h.1, h.2]; rfl⟩
        · exact ⟨a :: before, after, by rw [h]; rfl⟩
      · intro ⟨before, after, h⟩
        cases before with
        | nil =>
          cases h
          simp
        | cons c before =>
          exact Or.inr ⟨before, after, (List.cons.inj h).2⟩

/-- What a suffix is that starts with a bracket. -/
theorem isSuffix_opening_iff (bracket : Bracket) (rest : Text) :
    isSuffix (bracket.opening :: rest) = true ↔
      '\n' ∉ rest ∧
        (rest.getLast? = some bracket.closing ∨
          rest.getLast? = some bracket.other.closing ∧
            hasPair bracket.closing bracket.other.opening rest = true) := by
  cases bracket <;>
    simp [isSuffix, Bracket.opening, Bracket.closing, Bracket.other, Bool.or_eq_true]

theorem exists_opening {c : Char} (h : opens c = true) : ∃ bracket : Bracket, c = bracket.opening := by
  simp only [opens, Bool.or_eq_true, beq_iff_eq] at h
  rcases h with rfl | rfl
  · exact ⟨.angle, rfl⟩
  · exact ⟨.square, rfl⟩

/-- A group ends with its own closing bracket or, if a group of the other kind begins in it right
after a closing bracket, with that of the other kind. -/
theorem shape_opening_iff (bracket : Bracket) (rest : Text) :
    SuffixShape (bracket.opening :: rest) ↔
      rest.getLast? = some bracket.closing ∨
        rest.getLast? = some bracket.other.closing ∧
          hasPair bracket.closing bracket.other.opening rest = true := by
  have hopening : ∀ {first second : Bracket}, first.opening = second.opening → first = second := by
    intro first second h
    cases first <;> cases second <;> first | rfl | exact absurd h (by decide)
  constructor
  · intro h
    -- the first character says of which kind the first group is
    generalize htext : bracket.opening :: rest = text at h
    cases h with
    | empty => exact absurd htext (List.cons_ne_nil _ _)
    | one first inner =>
      obtain ⟨hfirst, rfl⟩ := List.cons.inj htext
      rw [hopening hfirst]
      exact Or.inl List.getLast?_concat
    | @two first second differ inner inner' =>
      obtain ⟨hfirst, hrest⟩ := List.cons.inj htext
      rw [hopening hfirst, ← Bracket.eq_other_of_ne differ, hrest]
      -- the pair of brackets that is looked for stands where the groups meet
      refine Or.inr ⟨List.getLast?_eq_some_iff.mpr ⟨inner ++ first.closing :: second.opening :: inner',
        ?_⟩, hasPair_iff.mpr ⟨inner, inner' ++ [second.closing], ?_⟩⟩
      · simp [Bracket.group]
      · simp [Bracket.group]
  · intro h
    rcases h with h | ⟨hlast, hpair⟩
    · obtain ⟨inner, rfl⟩ := List.getLast?_eq_some_iff.mp h
      exact .one bracket inner
    · obtain ⟨inner, after, rfl⟩ := hasPair_iff.mp hpair
      have hdiffer : bracket ≠ bracket.other := by cases bracket <;> decide
      rcases List.eq_nil_or_concat after with rfl | ⟨inner', last, rfl⟩
      · -- the last bracket would open a group
        cases bracket <;> simp [Bracket.opening, Bracket.closing, Bracket.other] at hlast
      · obtain ⟨front, hfront⟩ := List.getLast?_eq_some_iff.mp hlast
        have hends : (inner ++ bracket.closing :: bracket.other.opening :: inner') ++ [last] =
            front ++ [bracket.other.closing] := by
          rw [← hfront]
          simp
        have hclosing : last = bracket.other.closing :=
          List.singleton_inj.mp (List.append_inj' hends rfl).2
        rw [hclosing]
        have htwo := SuffixShape.two hdiffer inner inner'
        simpa [Bracket.group] using htwo

/-- A suffix is on one line and has one of the shapes, and nothing else is a suffix. -/
theorem isSuffix_iff_shape {text : Text} :
    isSuffix text = true ↔ '\n' ∉ text ∧ SuffixShape text := by
  constructor
  · intro h
    refine ⟨newline_not_mem_of_isSuffix h, ?_⟩
    rcases ends_of_isSuffix h with rfl | ⟨first, middle, last, rfl, hfirst, -⟩
    · exact .empty
    · obtain ⟨bracket, rfl⟩ := exists_opening hfirst
      exact (shape_opening_iff bracket _).mpr ((isSuffix_opening_iff bracket _).mp h).2
  · intro ⟨hline, hshape⟩
    have hopens : text = [] ∨ ∃ bracket : Bracket, ∃ rest, text = bracket.opening :: rest := by
      cases hshape with
      | empty => exact Or.inl rfl
      | one bracket inner => exact Or.inr ⟨bracket, _, rfl⟩
      | two differ inner inner' => exact Or.inr ⟨_, _, rfl⟩
    rcases hopens with rfl | ⟨bracket, rest, rfl⟩
    · rfl
    · have hrest : '\n' ∉ rest := fun hmem => hline (List.mem_cons_of_mem _ hmem)
      exact (isSuffix_opening_iff bracket rest).mpr
        ⟨hrest, (shape_opening_iff bracket rest).mp hshape⟩

/-! ## References -/

/-- Whether names and a suffix spell a reference: identifiers joined by dots, and then nothing, one
bracket group or two of different kinds, all on one line. -/
structure Spells (names : List Text) (suffix text : Text) : Prop where
  ne_nil : names ≠ []
  identifiers : ∀ name ∈ names, IsIdentifier name
  shape : SuffixShape suffix
  line : '\n' ∉ suffix
  eq_append : text = Text.dotted names ++ suffix

/-- A text is cut into a path and a suffix when it is spelled by them. -/
theorem cut?_eq_some_iff_spells {names : List Text} {suffix text : Text} :
    cut? text = some ⟨names, suffix⟩ ↔ Spells names suffix text := by
  rw [cut?_eq_some_iff]
  constructor
  · intro ⟨hwell, htext⟩
    obtain ⟨hline, hshape⟩ := isSuffix_iff_shape.mp hwell.isSuffix
    exact ⟨hwell.path.ne_nil,
      fun name hname => Identifier.accepts_iff.mp (hwell.path.accepts name hname), hshape, hline,
      htext⟩
  · intro h
    have hpath : IsPath names :=
      ⟨h.ne_nil, fun name hname => Identifier.accepts_iff.mpr (h.identifiers name hname)⟩
    exact ⟨⟨hpath, isSuffix_iff_shape.mpr ⟨h.line, h.shape⟩⟩, h.eq_append⟩

/-- The suffix of a reference is any number of bracket groups on one line. -/
theorem spells_iff_groups {names : List Text} {suffix text : Text} :
    Spells names suffix text ↔ names ≠ [] ∧ (∀ name ∈ names, IsIdentifier name) ∧
      ('\n' ∉ suffix ∧ Groups suffix) ∧ text = Text.dotted names ++ suffix := by
  rw [groups_iff_shape]
  constructor
  · intro h
    exact ⟨h.ne_nil, h.identifiers, ⟨h.line, h.shape⟩, h.eq_append⟩
  · rintro ⟨hne, hidentifiers, ⟨hline, hshape⟩, htext⟩
    exact ⟨hne, hidentifiers, hshape, hline, htext⟩

end TypeRef

end JvmSource
