import JvmSource.Writer.Basic
import JvmSource.Proofs.Pattern.Ordered

/-!
# Exclusion patterns and whole references

A pattern for excluded types is put into a wrapper as text, and the wrapper is read as one pattern.
If the reading of the pattern alone ends with the pattern, the wrapper holds it as a group between
two anchors, and the references that are excluded are those that it matches from start to end. A
closing parenthesis that nothing in the pattern opens closes the group of the wrapper instead; a
pattern with one is no pattern on its own, but the wrapper may be (`a)|(b` in it is `^(?:a)|(b)$`).
-/

namespace JvmSource

namespace Pattern

open Input

/-- The pattern that a text is on its own, of whatever size. -/
def read? (text : Text) : Option Pattern := do
  let expr ← readExpr? text
  let (pattern, _) ← expr.meaning? {}
  return pattern

/-- Whether reading a pattern stops at a closing parenthesis that nothing in the pattern opens. -/
def closesGroup (pattern : Text) : Bool :=
  (readEither? (3 * pattern.length + 3) [] ⟨false, [], pattern⟩).any fun read =>
    read.2.rest.head? == some ')'

/-- A pattern between the ends of a text. -/
def anchored (p : Pattern) : Pattern :=
  .sequence (.anchor .textStart) (.sequence (.group false p) (.anchor .textEnd))

variable {pattern : Text} {p : Pattern} {expr branch : Expr} {after : Input}

/-- A pattern on its own is parsed unless it is too large. -/
theorem parse?_eq_filter (text : Text) : parse? text = (read? text).filter (·.isAffordable) := by
  simp only [parse?, read?]
  cases readExpr? text with
  | none => rfl
  | some expr =>
    simp only [Option.bind_eq_bind, Option.bind_some]
    cases expr.meaning? {} <;> rfl

/-- A pattern between anchors is found where it matches the whole text. -/
theorem foundIn_anchored_iff (text : Text) :
    p.anchored.FoundIn text ↔ Matches text p 0 text.length := by
  simp only [FoundIn, anchored, matches_sequence_iff, matches_anchor_iff, matches_group_iff]
  constructor
  · rintro ⟨i, j, m, ⟨hm, hbound, hstart⟩, k, hp, hj, -, hend⟩
    have hfirst : i = 0 := by
      cases i with
      | zero => rfl
      | succ i =>
        simp [Anchor.holds, before?, List.getElem?_eq_getElem hbound] at hstart
    have hlast : k = text.length := by
      simp only [Anchor.holds, Option.isNone_iff_eq_none, List.getElem?_eq_none_iff] at hend
      exact Nat.le_antisymm hp.bounds.2 hend
    rwa [hm, hfirst, hlast] at hp
  · intro hp
    refine ⟨0, text.length, 0, ⟨rfl, Nat.zero_le _, rfl⟩, text.length, hp, rfl, Nat.le_refl _, ?_⟩
    simp [Anchor.holds]

/-! ## The wrapper -/

/-- What follows the start of the wrapper is its group. -/
theorem reads_of_wrapper {text : Text}
    (h : Reads (.parts []) ⟨false, [], '^' :: '(' :: '?' :: ':' :: text⟩ branch after) :
    ∃ body mid rest, Reads (.branches []) ⟨false, [], text⟩ body mid ∧ mid.rest = ')' :: rest ∧
      Reads (.parts [.group [] body, .assertion .lineStart]) { mid with rest, verbose := false }
        branch after := by
  have hgroup : Reads (.parts [.assertion .lineStart]) ⟨false, [], '(' :: '?' :: ':' :: text⟩
      branch after := by
    cases h with
    | stop hstop => exact absurd (hstop '^' rfl) (by decide)
    | part hpart hmore =>
      cases hpart
      exact hmore
    | repetition hbounds => cases hbounds
    | flags hopen | group hopen | capture hopen => cases hopen
  have hstart : readGroupStart? ⟨false, [], '(' :: '?' :: ':' :: text⟩ =
      some (.group [], ⟨false, [], text⟩) := by
    have hflags : readFlags? false [] (':' :: text) = some ([], ':' :: text) :=
      readFlags?_cons false [] (by decide) text
    exact readGroupStart?_eq_some_iff.mpr (.group rfl hflags)
  cases hgroup with
  | stop hstop => exact absurd (hstop '(' rfl) (by decide)
  | part hpart => cases hpart
  | repetition hbounds => cases hbounds
  | flags _ hother | capture _ hother => cases hstart.symm.trans hother
  | group _ hother hbody hclose hmore =>
    cases hstart.symm.trans hother
    exact ⟨_, _, _, hbody, hclose, hmore⟩

/-- What follows the group is the end of the wrapper. -/
theorem reads_of_end {done : List Expr} {names : List Text}
    (h : Reads (.parts done) ⟨false, names, ['$']⟩ branch after) :
    branch = sequenceOf (.assertion .lineEnd :: done).reverse ∧ after.rest = [] := by
  cases h with
  | stop hstop => exact absurd (hstop '$' rfl) (by decide)
  | part hpart hmore =>
    cases hpart
    cases hmore with
    | stop => exact ⟨rfl, rfl⟩
    | part hpart => cases hpart
    | repetition hbounds => cases hbounds
    | flags hopen | group hopen | capture hopen => cases hopen
  | repetition hbounds => cases hbounds
  | flags hopen | group hopen | capture hopen => cases hopen

/-- The wrapper, as it is read. -/
def wrapper (body : Expr) : Expr :=
  .sequence [.assertion .lineStart, .group [] body, .assertion .lineEnd]

/-- The group of the wrapper is closed by the pattern, or it holds the pattern. -/
theorem closesGroup_or_of_wrapper
    (h : Reads (.parts []) ⟨false, [], '^' :: '(' :: '?' :: ':' :: (pattern ++ closing)⟩
      branch after) :
    closesGroup pattern = true ∨ ∃ body inner,
      readEither? (3 * pattern.length + 3) [] ⟨false, [], pattern⟩ = some (body, inner) ∧
        inner.rest = [] ∧ branch = wrapper body ∧ after.rest = [] := by
  obtain ⟨body, mid, rest, hbody, hclose, hmore⟩ := reads_of_wrapper h
  have hlong : 2 ≤ mid.rest.length := by
    -- the last character of the wrapper is not a parenthesis
    obtain ⟨front, hfront⟩ := hbody.suffix
    rw [hclose] at hfront ⊢
    cases rest with
    | nil =>
      have hlast := congrArg List.getLast? hfront
      simp [closing] at hlast
    | cons c rest => simp
  have hclosed : Reads (.branches []) (closed ⟨false, [], pattern⟩) body mid := hbody
  obtain ⟨inner, rfl, hinner⟩ := hclosed.closed hlong
  have hbound : 2 * pattern.length + 2 ≤ 3 * pattern.length + 3 := by omega
  have hread := readEither?_of_reads hinner hbound
  cases hrest : inner.rest with
  | nil =>
    -- all of the pattern has been read, so the parenthesis is that of the wrapper
    rw [closed_rest, hrest] at hclose
    cases hclose
    obtain ⟨rfl, hafter⟩ := reads_of_end hmore
    exact Or.inr ⟨body, inner, hread, hrest, rfl, hafter⟩
  | cons c more =>
    rw [closed_rest, hrest] at hclose
    obtain ⟨rfl, -⟩ := List.cons.inj hclose
    exact Or.inl (by simp [closesGroup, hread, hrest])

theorem readExpr?_eq_some_iff {text : Text} :
    readExpr? text = some expr ↔ ∃ left,
      readEither? (3 * text.length + 3) [] ⟨false, [], text⟩ = some (expr, left) ∧
        left.rest = [] ∧ expr.height ≤ maxHeight := by
  rw [readExpr?]
  constructor
  · intro h
    obtain ⟨⟨expr, left⟩, hread, h⟩ := Option.bind_eq_some_iff.mp h
    simp only at h
    split at h
    · next hend =>
      cases h
      simp only [Bool.and_eq_true, List.isEmpty_iff, decide_eq_true_iff] at hend
      exact ⟨left, hread, hend⟩
    · cases h
  · rintro ⟨left, hread, hend, hheight⟩
    simp [hread, hend, hheight]

/-- A pattern that closes the group of the wrapper is no pattern on its own. -/
theorem read?_of_closesGroup (h : closesGroup pattern = true) : read? pattern = none := by
  have hnone : readExpr? pattern = none := by
    refine Option.eq_none_iff_forall_ne_some.mpr fun expr hexpr => ?_
    obtain ⟨left, hread, hend, -⟩ := readExpr?_eq_some_iff.mp hexpr
    simp [closesGroup, hread, hend] at h
  rw [read?, hnone]
  rfl

/-- The wrapper means the pattern between anchors. -/
theorem meaning?_wrapper (body : Expr) :
    (wrapper body).meaning? {} = (body.meaning? {}).map fun read => (read.1.anchored, {}) := by
  have hflags : ({} : Flags).apply [] = {} := rfl
  simp only [wrapper, Expr.meaning?, Expr.meanings?, Option.bind_eq_bind, Option.bind_some, hflags]
  cases body.meaning? {} <;> rfl

theorem height_wrapper (body : Expr) : (wrapper body).height = body.height + 2 := by
  simp [wrapper, Expr.height, Expr.maxHeight]

/-- What is accepted inside the wrapper is a pattern on its own, between anchors, unless it closes
the group. -/
theorem closesGroup_or_of_parseWhole? (h : parseWhole? pattern = some p) :
    closesGroup pattern = true ∨ ∃ q, read? pattern = some q ∧ q.IsOrdered ∧ p = q.anchored := by
  have htext : "^(?:".toList ++ pattern ++ ")$".toList =
      '^' :: '(' :: '?' :: ':' :: (pattern ++ closing) := rfl
  rw [parseWhole?, parse?, htext] at h
  obtain ⟨expr, hexpr, h⟩ := Option.bind_eq_some_iff.mp h
  obtain ⟨⟨p', flags⟩, hmeaning, h⟩ := Option.bind_eq_some_iff.mp h
  simp only at h
  split at h
  · cases h
    obtain ⟨left, hread, hend, hheight⟩ := readExpr?_eq_some_iff.mp hexpr
    cases reads_of_readEither? hread with
    | last hbranch hbar =>
      refine (closesGroup_or_of_wrapper hbranch).imp_right ?_
      rintro ⟨body, inner, hbody, hinner, rfl, -⟩
      rw [show eitherOf ([] ++ [wrapper body]) = wrapper body from rfl] at hmeaning hheight
      rw [height_wrapper] at hheight
      rw [meaning?_wrapper] at hmeaning
      obtain ⟨⟨q, flags'⟩, hq, heq⟩ := Option.map_eq_some_iff.mp hmeaning
      cases heq
      have halone : readExpr? pattern = some body :=
        readExpr?_eq_some_iff.mpr ⟨inner, hbody, hinner, by omega⟩
      have hordered : body.IsOrdered :=
        (reads_of_readEither? hbody).ordered (List.forall_mem_nil _)
      refine ⟨q, ?_, hordered.meaning hq, rfl⟩
      rw [read?, halone]
      simp [hq]
    | bar hbranch hbar hmore =>
      -- a second branch of the wrapper starts behind the group that the pattern has closed
      refine (closesGroup_or_of_wrapper hbranch).imp_right ?_
      rintro ⟨body, inner, -, -, -, hafter⟩
      exact absurd (hbar.symm.trans hafter) (by simp)
  · cases h

/-- The search for a pattern between anchors accepts what it matches as a whole. -/
theorem search_anchored_iff (h : p.IsOrdered) (text : Text) :
    p.anchored.search text = true ↔ Matches text p 0 text.length :=
  (search_eq_true_iff (p := p.anchored) ⟨trivial, h, trivial⟩ text).trans (foundIn_anchored_iff text)

end Pattern

namespace Resolver

open Pattern

/-- Whether a pattern for excluded types is understood as it is on its own: if it is accepted it is
a pattern, and excludes the references that it matches from start to end, and if it is no pattern it
is refused. -/
structure MatchesWhole (policy : Policy) (pattern : Text) : Prop where
  accepted : ∀ resolver, create policy (some pattern) = .ok resolver →
    ∃ p, read? pattern = some p ∧
      ∀ type : TypeRef, resolver.excludes type = true ↔ Matches type.print p 0 type.print.length
  refused : read? pattern = none →
    create policy (some pattern) = .error (.invalidPattern pattern)

/-- Exclusion has full-match semantics exactly for the patterns that do not close the group they are
put into: those that are refused, and those whose reading does not stop at a closing parenthesis
that nothing in them opens. -/
theorem matchesWhole_iff (policy : Policy) (pattern : Text) :
    MatchesWhole policy pattern ↔
      ¬ ((∃ resolver, create policy (some pattern) = .ok resolver) ∧
        closesGroup pattern = true) := by
  constructor
  · rintro h ⟨⟨resolver, hcreate⟩, hcloses⟩
    obtain ⟨p, hp, -⟩ := h.accepted resolver hcreate
    -- such a pattern cannot be read on its own
    rw [read?_of_closesGroup hcloses] at hp
    cases hp
  · intro h
    cases hwhole : parseWhole? pattern with
    | none =>
      have hcreate : create policy (some pattern) = .error (.invalidPattern pattern) := by
        rw [create, hwhole]
      refine ⟨fun resolver hok => ?_, fun _ => hcreate⟩
      rw [hcreate] at hok
      cases hok
    | some p =>
      have hcreate : create policy (some pattern) = .ok ⟨policy, some p⟩ := by
        rw [create, hwhole]
      -- a pattern that closes no group is what the wrapper holds
      obtain ⟨q, hq, hordered, rfl⟩ :=
        (closesGroup_or_of_parseWhole? hwhole).resolve_left fun hcloses =>
          h ⟨⟨_, hcreate⟩, hcloses⟩
      refine ⟨fun resolver hok => ?_, fun hnone => ?_⟩
      · rw [hcreate] at hok
        cases hok
        exact ⟨q, hq, fun type => search_anchored_iff hordered type.print⟩
      · rw [hq] at hnone
        cases hnone

/-- A text that is no pattern is accepted, and excludes a type that only its last part matches. -/
theorem unopened_group_accepted :
    read? "a)|(b".toList = none ∧
      ∃ resolver, create Dialect.java.policy (some "a)|(b".toList) = .ok resolver ∧
        resolver.excludes (.mk ["x".toList, "b".toList] .empty) = true := by
  refine ⟨?_, _, rfl, ?_⟩
  · decide +kernel
  · decide +kernel

end Resolver

end JvmSource
