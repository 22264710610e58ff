import Mathlib.Data.List.Forall2
import Mathlib.Tactic.Common
import JvmSource.Proofs.TypeRef.Grammar
import JvmSource.Proofs.TypeRef.Queue

/-!
# Reading by the rules

What a cut reference is read as can be said by three rules (`Reads`): without a suffix it is a bare
path, a suffix that is a list of arguments is read argument by argument one level deeper, and any
other suffix is kept as text, as is every suffix from some depth on. When a suffix is a list of
arguments is said without the reader, by `IsArgumentList`. The rules allow one reading of each cut
reference, and this is what is read, row by row and with a queue alike.
-/

namespace JvmSource

theorem Suffix.ofText_of_ne_nil {text : Text} (h : text ≠ []) : ofText text = .verbatim text := by
  cases text with
  | nil => exact absurd rfl h
  | cons c rest => rfl

namespace TypeRef

/-! ## Lists of arguments -/

/-- Whether a text between two commas is an argument: without the white space around it and without
the question mark at its end, if there is one, it spells a reference. -/
def IsArgument (piece : Text) (arg : Cut × Bool) : Prop :=
  ∃ reference, Text.trim piece = reference ++ question arg.2 ∧
    Spells arg.1.names arg.1.suffix reference

/-- Whether a suffix is a list of arguments: one bracket group, cut at the commas that stand outside
of all brackets in it. The brackets are balanced in each of the pieces, where both kinds count
alike, and each piece is an argument. -/
inductive IsArgumentList : Text → Bracket → List (Cut × Bool) → Prop where
  | mk {bracket : Bracket} {pieces : List Text} {args : List (Cut × Bool)} (ne_nil : pieces ≠ [])
      (balanced : ∀ piece ∈ pieces, IsPiece piece)
      (arguments : List.Forall₂ IsArgument pieces args) :
      IsArgumentList (bracket.group ([','].intercalate pieces)) bracket args

/-- The arguments of the grammar are those that are cut. -/
theorem isArgument_iff {piece : Text} {arg : Cut × Bool} :
    IsArgument piece arg ↔ cutArg? piece = some arg := by
  obtain ⟨cut, nullable⟩ := arg
  rw [cutArg?_eq_some_iff]
  constructor
  · intro ⟨reference, htrim, hspells⟩
    obtain ⟨hwell, rfl⟩ := cut?_eq_some_iff.mp (cut?_eq_some_iff_spells.mpr hspells)
    exact ⟨hwell, htrim⟩
  · intro ⟨hwell, htrim⟩
    exact ⟨cut.text, htrim, cut?_eq_some_iff_spells.mp (cut?_eq_some_iff.mpr ⟨hwell, rfl⟩)⟩

theorem forall₂_isArgument_iff {pieces : List Text} {args : List (Cut × Bool)} :
    List.Forall₂ IsArgument pieces args ↔ pieces.mapM cutArg? = some args := by
  induction pieces generalizing args with
  | nil => simp [eq_comm]
  | cons piece pieces ih =>
    rw [List.forall₂_cons_left_iff]
    simp only [List.mapM_cons, bind, pure, Option.bind_eq_some_iff, Option.some.injEq,
      isArgument_iff, ih]
    constructor
    · intro ⟨arg, others, harg, hothers, heq⟩
      exact ⟨arg, harg, others, hothers, heq.symm⟩
    · intro ⟨arg, harg, others, hothers, heq⟩
      exact ⟨arg, others, harg, hothers, heq.symm⟩

/-- Pieces that are joined by commas are found again. -/
theorem topLevelPieces?_intercalate {pieces : List Text} (hne : pieces ≠ [])
    (h : ∀ piece ∈ pieces, IsPiece piece) :
    topLevelPieces? 0 ([','].intercalate pieces) = some pieces := by
  induction pieces with
  | nil => exact absurd rfl hne
  | cons piece pieces ih =>
    have hpiece : IsPiece piece := h piece (by simp)
    cases pieces with
    | nil =>
      rw [List.intercalate_singleton]
      exact topLevelPieces?_of_piece hpiece
    | cons piece' pieces =>
      have hothers := ih (by simp) fun piece hmem => h piece (by simp [hmem])
      rw [List.intercalate_cons_cons, List.append_assoc, List.singleton_append,
        topLevelPieces?_append_comma hpiece, hothers]
      rfl

/-- A suffix is cut into arguments when it is a list of them. -/
theorem isArgumentList_iff {suffix : Text} {bracket : Bracket} {args : List (Cut × Bool)} :
    IsArgumentList suffix bracket args ↔ cutArgs? suffix = some (bracket, args) := by
  rw [cutArgs?_eq_some_iff]
  constructor
  · intro h
    cases h with
    | mk ne_nil balanced arguments =>
      exact ⟨_, _, rfl, topLevelPieces?_intercalate ne_nil balanced,
        forall₂_isArgument_iff.mp arguments⟩
  · intro ⟨inner, pieces, hsuffix, hpieces, hcuts⟩
    obtain ⟨first, others, rfl, hfirst, hothers, hjoin⟩ := pieces_of_topLevelPieces? hpieces
    rw [hsuffix, ← hjoin]
    refine .mk (List.cons_ne_nil first others) ?_ (forall₂_isArgument_iff.mpr hcuts)
    intro piece hpiece
    rcases List.mem_cons.mp hpiece with heq | hmem
    · rw [heq]
      exact hfirst
    · exact hothers piece hmem

theorem IsArgumentList.ne_nil {suffix : Text} {bracket : Bracket} {args : List (Cut × Bool)}
    (h : IsArgumentList suffix bracket args) : args ≠ [] :=
  (args_of_cutArgs? (isArgumentList_iff.mp h)).1

/-! ## The rules -/

mutual

/-- What a cut reference is read as at a nesting depth. -/
inductive Reads : Nat → Cut → TypeRef → Prop where
  | bare {depth : Nat} {names : List Text} : Reads depth ⟨names, []⟩ (.mk names .empty)
  | plain {depth : Nat} {cut : Cut} {bracket : Bracket} {cuts : List (Cut × Bool)}
      {args : List TypeArg} (shallow : depth < maxDepth)
      (list : IsArgumentList cut.suffix bracket cuts) (ne_nil : args ≠ [])
      (reads : ReadsArgs (depth + 1) cuts args) :
      Reads depth cut (.mk cut.names (.plain bracket args))
  | verbatim {depth : Nat} {cut : Cut} (ne_nil : cut.suffix ≠ [])
      (kept : depth < maxDepth → ∀ bracket cuts, ¬ IsArgumentList cut.suffix bracket cuts) :
      Reads depth cut (.mk cut.names (.verbatim cut.suffix))

/-- What cut arguments are read as at a nesting depth, each in its turn. -/
inductive ReadsArgs : Nat → List (Cut × Bool) → List TypeArg → Prop where
  | nil {depth : Nat} : ReadsArgs depth [] []
  | cons {depth : Nat} {cut : Cut} {nullable : Bool} {cuts : List (Cut × Bool)} {type : TypeRef}
      {args : List TypeArg} (first : Reads depth cut type) (others : ReadsArgs depth cuts args) :
      ReadsArgs depth ((cut, nullable) :: cuts) (.mk type nullable :: args)

end

/-- A waiting reference has arguments when its suffix lists them and its depth is below the
limit. -/
theorem args?_eq_some_iff {depth : Nat} {cut : Cut} {bracket : Bracket}
    {cuts : List (Cut × Bool)} :
    (Waiting.mk cut depth).args? = some (bracket, cuts) ↔
      depth < maxDepth ∧ IsArgumentList cut.suffix bracket cuts := by
  rw [isArgumentList_iff, Waiting.args?]
  by_cases hdepth : depth < maxDepth
  · simp [hdepth]
  · simp [hdepth]

/-- Arguments are read one by one, each as its reference is. -/
theorem readsArgs_iff {depth : Nat} {read : Cut → TypeRef}
    (h : ∀ cut type, Reads depth cut type ↔ type = read cut) {cuts : List (Cut × Bool)}
    {args : List TypeArg} :
    ReadsArgs depth cuts args ↔ args = cuts.map fun found => .mk (read found.1) found.2 := by
  induction cuts generalizing args with
  | nil =>
    constructor
    · intro hreads
      cases hreads
      rfl
    · intro hargs
      rw [hargs]
      exact .nil
  | cons found cuts ih =>
    obtain ⟨cut, nullable⟩ := found
    constructor
    · intro hreads
      cases hreads with
      | cons first others => rw [(h _ _).mp first, ih.mp others, List.map_cons]
    · intro hargs
      rw [hargs]
      exact .cons ((h _ _).mpr rfl) (ih.mpr rfl)

/-- The rules allow one reading of each cut reference. The recursion is on the depth that is
left. -/
theorem reads_iff {depth : Nat} {cut : Cut} {type : TypeRef} :
    Reads depth cut type ↔ type = (Waiting.mk cut depth).type := by
  cases hargs : (Waiting.mk cut depth).args? with
  | none =>
    -- above the limit, the suffix lists no arguments
    have hkept : depth < maxDepth → ∀ bracket cuts, ¬ IsArgumentList cut.suffix bracket cuts := by
      intro hdepth bracket cuts hlist
      exact absurd (hargs.symm.trans (args?_eq_some_iff.mpr ⟨hdepth, hlist⟩)) (by simp)
    rw [type_of_none hargs]
    constructor
    · intro h
      cases h with
      | bare => rfl
      | plain shallow list ne_nil reads => exact absurd list (hkept shallow _ _)
      | verbatim ne_nil kept => rw [Suffix.ofText_of_ne_nil ne_nil]
    · intro htype
      rw [htype]
      by_cases hsuffix : cut.suffix = []
      · obtain ⟨names, suffix⟩ := cut
        subst hsuffix
        exact .bare
      · rw [Suffix.ofText_of_ne_nil hsuffix]
        exact .verbatim hsuffix hkept
  | some found =>
    obtain ⟨bracket, cuts⟩ := found
    obtain ⟨hdepth, hlist⟩ := args?_eq_some_iff.mp hargs
    have hreads : ∀ {args : List TypeArg}, ReadsArgs (depth + 1) cuts args ↔
        args = cuts.map fun found => .mk (Waiting.mk found.1 (depth + 1)).type found.2 :=
      readsArgs_iff fun cut type => @reads_iff (depth + 1) cut type
    rw [type_of_some hargs]
    constructor
    · intro h
      cases h with
      -- an empty suffix lists nothing
      | bare => exact absurd (isArgumentList_iff.mp hlist) (by simp [cutArgs?, group?])
      | plain shallow list ne_nil reads =>
        cases (isArgumentList_iff.mp hlist).symm.trans (isArgumentList_iff.mp list)
        rw [hreads.mp reads]
      | verbatim ne_nil kept => exact absurd hlist (kept hdepth bracket cuts)
    · intro htype
      rw [htype]
      exact .plain hdepth hlist (by simpa using hlist.ne_nil) (hreads.mpr rfl)
termination_by maxDepth - depth
decreasing_by omega

/-- Every text that can be cut into a path and a suffix is read, and what is read is the one reading
that the rules allow. Reading with a queue gives the same: each place but the first is linked once,
and no reference misses an argument when it is put together. -/
theorem parse_reads {text : Text} {cut : Cut} (h : cut? text = some cut) :
    ∃ type, parse text = .ok type ∧ (∀ other, Reads 0 cut other ↔ other = type) ∧
      readQueue cut = some type ∧ NothingMissing 0 (enqueue 0 [⟨cut, 0⟩]) ∧
      (enqueue 0 [⟨cut, 0⟩]).flatMap Node.places =
        List.range' 1 ((enqueue 0 [⟨cut, 0⟩]).length - 1) := by
  refine ⟨descend maxDepth cut, parse_eq_ok_iff_descend.mpr ⟨cut, h, rfl⟩, ?_, readQueue_eq cut,
    (putAll_enqueue 0 [⟨cut, 0⟩]).2, ?_⟩
  · intro other
    exact reads_iff
  · obtain ⟨added, hlength, hplaces⟩ := places_enqueue 0 [⟨cut, 0⟩]
    rw [hplaces, hlength]
    simp

/-- A nullable argument, and one that has an argument and dimensions. -/
theorem parse_reads_nested :
    let cut : Cut := ⟨["a".toList, "B".toList], "<c.D?, e.F<g.H<i.J>>, k.L<m.N>[]>".toList⟩
    cut? cut.text = some cut ∧
      ∃ type, parse cut.text = .ok type ∧ (∀ other, Reads 0 cut other ↔ other = type) ∧
        readQueue cut = some type ∧ NothingMissing 0 (enqueue 0 [⟨cut, 0⟩]) ∧
        (enqueue 0 [⟨cut, 0⟩]).flatMap Node.places =
          List.range' 1 ((enqueue 0 [⟨cut, 0⟩]).length - 1) := by
  intro cut
  have hcut : cut? cut.text = some cut := by rfl
  exact ⟨hcut, parse_reads hcut⟩

end TypeRef

end JvmSource
