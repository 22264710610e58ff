import Mathlib.Tactic.Common
import JvmSource.TypeRef.Parser
import JvmSource.Proofs.Identifier
import JvmSource.Proofs.Text.Trim

/-!
# Pieces between commas

Arguments are cut apart at the commas outside all brackets. A text is a piece when the depth of its
brackets starts and ends at zero and no comma stands outside of them. Cutting gives pieces, and
pieces that are joined by commas are cut where they were joined.
-/

namespace JvmSource.TypeRef

/-- The depth of brackets after one more character; none at a bracket that closes nothing and at a
comma outside all brackets. -/
def nest? (depth : Nat) (c : Char) : Option Nat :=
  if opens c then some (depth + 1)
  else if closes c then
    match depth with
    | 0 => none
    | depth + 1 => some depth
  else if c == ',' && depth == 0 then none
  else some depth

/-- The depth of brackets after a text that begins at a given depth. -/
def depthAfter? (depth : Nat) (text : Text) : Option Nat := text.foldlM nest? depth

/-- Whether a text is never cut, and leaves no bracket open. -/
def IsPiece (text : Text) : Prop := depthAfter? 0 text = some 0

/-- Whether a character says nothing about where to cut. -/
def IsNeutral (c : Char) : Prop := opens c = false ∧ closes c = false ∧ c ≠ ','

variable {depth : Nat} {text rest : Text} {c : Char}

theorem depthAfter?_cons (depth : Nat) (c : Char) (rest : Text) :
    depthAfter? depth (c :: rest) = (nest? depth c).bind (depthAfter? · rest) := by
  simp [depthAfter?, List.foldlM_cons, bind]

/-- The depth after two texts is the depth after the second, begun at the depth after the first. -/
theorem depthAfter?_append (depth : Nat) (first second : Text) :
    depthAfter? depth (first ++ second) = (depthAfter? depth first).bind (depthAfter? · second) := by
  simp [depthAfter?, List.foldlM_append, bind]

/-! ## Neutral characters -/

/-- A neutral character leaves the depth as it is. -/
theorem nest?_of_neutral (h : IsNeutral c) (depth : Nat) : nest? depth c = some depth := by
  obtain ⟨hopens, hcloses, hcomma⟩ := h
  simp [nest?, hopens, hcloses, hcomma]

/-- A text of neutral characters leaves the depth as it is. -/
theorem depthAfter?_of_neutral (h : ∀ c ∈ text, IsNeutral c) (depth : Nat) :
    depthAfter? depth text = some depth := by
  induction text with
  | nil => rfl
  | cons c rest ih =>
    rw [depthAfter?_cons, nest?_of_neutral (h c (by simp))]
    exact ih fun c hc => h c (by simp [hc])

theorem neutral_of_ne (hless : c ≠ '<') (hopen : c ≠ '[') (hgreater : c ≠ '>') (hclose : c ≠ ']')
    (hcomma : c ≠ ',') : IsNeutral c := by
  refine ⟨?_, ?_, hcomma⟩
  · simp [opens, hless, hopen]
  · simp [closes, hgreater, hclose]

/-- Whitespace is neutral. -/
theorem neutral_of_isBlank (h : Unicode.isBlank c = true) : IsNeutral c := by
  have hne : ∀ d, Unicode.isBlank d = false → c ≠ d := by
    rintro d hd rfl
    rw [h] at hd
    exact absurd hd (by simp)
  exact neutral_of_ne (hne _ (by decide)) (hne _ (by decide)) (hne _ (by decide))
    (hne _ (by decide)) (hne _ (by decide))

/-- The characters of a path are neutral. -/
theorem neutral_of_mem_path {names : List Text} (h : IsPath names) (hc : c ∈ Text.dotted names) :
    IsNeutral c := by
  have hne : ∀ d, d ≠ '.' → Identifier.continues d = false → c ≠ d := by
    rintro d hdot hd rfl
    exact h.not_mem hdot hd hc
  exact neutral_of_ne (hne _ (by decide) (by decide)) (hne _ (by decide) (by decide))
    (hne _ (by decide) (by decide)) (hne _ (by decide) (by decide))
    (hne _ (by decide) (by decide))

/-- A path opens and closes no bracket. -/
theorem depthAfter?_path {names : List Text} (h : IsPath names) (depth : Nat) :
    depthAfter? depth (Text.dotted names) = some depth :=
  depthAfter?_of_neutral (fun _ hc => neutral_of_mem_path h hc) depth

/-- Trimming a text leaves the depth after it as it is. -/
theorem depthAfter?_trim (depth : Nat) (text : Text) :
    depthAfter? depth (Text.trim text) = depthAfter? depth text := by
  obtain ⟨before, after, hbefore, hafter, htext⟩ := Text.exists_trim text
  have hstart : depthAfter? depth before = some depth :=
    depthAfter?_of_neutral (fun c hc => neutral_of_isBlank (hbefore c hc)) depth
  have hend : ∀ depth, depthAfter? depth after = some depth :=
    depthAfter?_of_neutral fun c hc => neutral_of_isBlank (hafter c hc)
  conv_rhs => rw [htext, depthAfter?_append, depthAfter?_append, hstart]
  simp [hend]

/-! ## Deeper down -/

/-- What a character does at one depth it does one level deeper. -/
theorem nest?_succ {after : Nat} (h : nest? depth c = some after) :
    nest? (depth + 1) c = some (after + 1) := by
  unfold nest? at h ⊢
  split
  · next hopens =>
    rw [if_pos hopens] at h
    cases h
    rfl
  · next hopens =>
    rw [if_neg hopens] at h
    split
    · next hcloses =>
      rw [if_pos hcloses] at h
      cases depth with
      | zero => exact absurd h (by simp)
      | succ depth =>
        cases h
        rfl
    · next hcloses =>
      rw [if_neg hcloses] at h
      split at h
      · exact absurd h (by simp)
      · cases h
        simp

/-- What is a piece outside of brackets is one inside of them. -/
theorem depthAfter?_succ {after : Nat} (h : depthAfter? depth text = some after) :
    depthAfter? (depth + 1) text = some (after + 1) := by
  induction text generalizing depth with
  | nil =>
    cases h
    rfl
  | cons c rest ih =>
    rw [depthAfter?_cons, Option.bind_eq_some_iff] at h
    obtain ⟨middle, hmiddle, hrest⟩ := h
    rw [depthAfter?_cons, nest?_succ hmiddle]
    exact ih hrest

/-! ## Cutting -/

/-- Cutting keeps track of the depth: where that fails, nothing is cut, or a piece ends. -/
theorem topLevelPieces?_cons_eq (depth : Nat) (c : Char) (rest : Text) :
    topLevelPieces? depth (c :: rest) =
      match nest? depth c with
      | some after => (topLevelPieces? after rest).map (consFirst c)
      | none => if closes c then none else (topLevelPieces? 0 rest).map ([] :: ·) := by
  by_cases hopens : opens c = true
  · cases depth <;> simp [topLevelPieces?, nest?, hopens]
  by_cases hcloses : closes c = true
  · cases depth <;> simp [topLevelPieces?, nest?, hopens, hcloses]
  by_cases hcomma : c = ','
  · subst hcomma
    cases depth <;> rfl
  · cases depth <;> simp [topLevelPieces?, nest?, hopens, hcloses, hcomma]

/-- A character at which nothing is cut goes to the first piece. -/
theorem topLevelPieces?_cons {after : Nat} (h : nest? depth c = some after) (rest : Text) :
    topLevelPieces? depth (c :: rest) = (topLevelPieces? after rest).map (consFirst c) := by
  rw [topLevelPieces?_cons_eq, h]

/-- Only at depth zero is there a cut or an end, at a comma or a closing bracket. -/
theorem nest?_eq_none_iff : nest? depth c = none ↔ depth = 0 ∧ (closes c = true ∨ c = ',') := by
  have hexclusive : opens c = true → closes c = true ∨ c = ',' → False := by
    intro hopens
    simp only [opens, Bool.or_eq_true, beq_iff_eq] at hopens
    rcases hopens with rfl | rfl <;> decide
  unfold nest?
  split
  · next hopens => simpa using fun _ => hexclusive hopens
  · split
    · next hcloses => cases depth <;> simp [hcloses]
    · next hcloses => simp [hcloses, and_comm]

/-- A comma after a piece ends it. -/
theorem topLevelPieces?_append_comma (h : depthAfter? depth text = some 0) (rest : Text) :
    topLevelPieces? depth (text ++ ',' :: rest) = (topLevelPieces? 0 rest).map (text :: ·) := by
  induction text generalizing depth with
  | nil =>
    cases h
    exact topLevelPieces?_cons_eq 0 ',' rest
  | cons c text ih =>
    rw [depthAfter?_cons, Option.bind_eq_some_iff] at h
    obtain ⟨after, hafter, htext⟩ := h
    rw [List.cons_append, topLevelPieces?_cons hafter, ih htext, Option.map_map]
    rfl

/-- A text that is never cut is its own only piece. -/
theorem topLevelPieces?_of_piece (h : depthAfter? depth text = some 0) :
    topLevelPieces? depth text = some [text] := by
  induction text generalizing depth with
  | nil =>
    cases h
    rfl
  | cons c text ih =>
    rw [depthAfter?_cons, Option.bind_eq_some_iff] at h
    obtain ⟨after, hafter, htext⟩ := h
    rw [topLevelPieces?_cons hafter, ih htext]
    rfl

/-- Cutting gives pieces: the first ends what has been begun, and the others stand on their own. It
takes out the commas between them and nothing else. -/
theorem pieces_of_topLevelPieces? {pieces : List Text} (h : topLevelPieces? depth text = some pieces) :
    ∃ first others, pieces = first :: others ∧ depthAfter? depth first = some 0 ∧
      (∀ piece ∈ others, IsPiece piece) ∧ [','].intercalate pieces = text := by
  induction text generalizing depth pieces with
  | nil =>
    cases depth with
    | zero =>
      cases h
      exact ⟨[], [], rfl, rfl, by simp, rfl⟩
    | succ depth => exact absurd h (by simp [topLevelPieces?])
  | cons c rest ih =>
    cases hnest : nest? depth c with
    | none =>
      -- the first piece ends here
      obtain ⟨rfl, hends⟩ := nest?_eq_none_iff.mp hnest
      rw [topLevelPieces?_cons_eq, hnest] at h
      simp only at h
      split at h
      · exact absurd h (by simp)
      next hcloses =>
      obtain ⟨others, hothers, rfl⟩ := Option.map_eq_some_iff.mp h
      obtain ⟨first, more, rfl, hfirst, hmore, hjoin⟩ := ih hothers
      refine ⟨[], first :: more, rfl, rfl, ?_, ?_⟩
      · intro piece hpiece
        rcases List.mem_cons.mp hpiece with rfl | hpiece
        · exact hfirst
        · exact hmore piece hpiece
      · rw [List.intercalate_cons_cons, hjoin, hends.resolve_left hcloses]
        rfl
    | some after =>
      -- the first piece is the longer by this character
      rw [topLevelPieces?_cons hnest, Option.map_eq_some_iff] at h
      obtain ⟨pieces, hpieces, rfl⟩ := h
      obtain ⟨first, others, rfl, hfirst, hothers, hjoin⟩ := ih hpieces
      refine ⟨c :: first, others, rfl, ?_, hothers, ?_⟩
      · rw [depthAfter?_cons, hnest]
        exact hfirst
      · rw [consFirst, List.intercalate_cons_cons_left, hjoin]

end JvmSource.TypeRef
