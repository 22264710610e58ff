import Mathlib.Data.List.Basic
import Mathlib.Tactic.Common
import JvmSource.Proofs.Text.Scanning
import JvmSource.Proofs.TypeRef.Pieces

/-!
# Cutting references out of text

A text is a reference exactly when it is a dotted path followed by a suffix, and then it is cut in
one way only, because no name holds a bracket. A reference begins with the first character of a name
and ends with a character of a name or with a bracket, so white space and a question mark around it
are told apart from it.
-/

namespace JvmSource.TypeRef

/-- The text that was cut. -/
def Cut.text (cut : Cut) : Text := Text.dotted cut.names ++ cut.suffix

/-- Whether a path and a suffix can stand together. -/
structure Cut.WellFormed (cut : Cut) : Prop where
  path : IsPath cut.names
  isSuffix : isSuffix cut.suffix = true

variable {text : Text} {cut : Cut}

/-! ## Suffixes -/

/-- A suffix that is not empty stands between an opening and a closing bracket. -/
theorem ends_of_isSuffix (h : isSuffix text = true) :
    text = [] ∨ ∃ first middle last, text = first :: (middle ++ [last]) ∧
      opens first = true ∧ closes last = true := by
  simp only [isSuffix, Bool.and_eq_true] at h
  -- both kinds of groups end in the same way
  have hgroup : ∀ {first last : Char} {rest : Text}, opens first = true → closes last = true →
      rest.getLast? = some last → ∃ first' middle last',
        first :: rest = first' :: (middle ++ [last']) ∧ opens first' = true ∧
          closes last' = true := by
    intro first last rest hfirst hlast hend
    obtain ⟨middle, rfl⟩ := List.getLast?_eq_some_iff.mp hend
    exact ⟨first, middle, last, rfl, hfirst, hlast⟩
  replace h := h.2
  split at h
  · exact Or.inl rfl
  · simp only [Bool.or_eq_true, Bool.and_eq_true, beq_iff_eq] at h
    rcases h with h | ⟨h, -⟩
    · exact Or.inr (hgroup rfl rfl h)
    · exact Or.inr (hgroup rfl rfl h)
  · simp only [Bool.or_eq_true, Bool.and_eq_true, beq_iff_eq] at h
    rcases h with h | ⟨h, -⟩
    · exact Or.inr (hgroup rfl rfl h)
    · exact Or.inr (hgroup rfl rfl h)
  · exact absurd h (by simp)

/-- No suffix has a line feed. -/
theorem newline_not_mem_of_isSuffix (h : isSuffix text = true) : '\n' ∉ text := by
  simp only [isSuffix, Bool.and_eq_true, Bool.not_eq_true', List.contains_eq_mem,
    decide_eq_false_iff_not] at h
  exact h.1

/-- One group of brackets is a suffix, whatever it holds, if it is on one line. -/
theorem isSuffix_group (bracket : Bracket) (h : '\n' ∉ text) :
    isSuffix (bracket.opening :: (text ++ [bracket.closing])) = true := by
  cases bracket <;> simp [isSuffix, Bracket.opening, Bracket.closing, h]

/-- A group is what stands between a bracket and its closing one at the ends of a text. -/
theorem group?_eq_some_iff {bracket : Bracket} {inner : Text} :
    group? text = some (bracket, inner) ↔
      text = bracket.opening :: (inner ++ [bracket.closing]) := by
  constructor
  · intro h
    unfold group? at h
    split at h
    · next rest =>
      split at h
      · next hlast =>
        cases h
        exact congrArg _ (List.dropLast_append_getLast? _ hlast).symm
      · exact absurd h (by simp)
    · next rest =>
      split at h
      · next hlast =>
        cases h
        exact congrArg _ (List.dropLast_append_getLast? _ hlast).symm
      · exact absurd h (by simp)
    · exact absurd h (by simp)
  · rintro rfl
    cases bracket <;> simp [group?, Bracket.opening, Bracket.closing]

/-! ## References -/

theorem not_opens_of_mem_path {names : List Text} (h : IsPath names) :
    ∀ c ∈ Text.dotted names, (!opens c) = true := by
  intro c hc
  simp [(neutral_of_mem_path h hc).1]

/-- A text is cut into a path and a suffix exactly when it is these two. -/
theorem cut?_eq_some_iff : cut? text = some cut ↔ cut.WellFormed ∧ text = cut.text := by
  constructor
  · intro h
    simp only [cut?, bind, Option.bind_eq_some_iff] at h
    obtain ⟨names, hnames, h⟩ := h
    split at h
    · next hsuffix =>
      cases h
      obtain ⟨hpath, htext⟩ := pathNames?_eq_some_iff.mp hnames
      refine ⟨⟨hpath, hsuffix⟩, ?_⟩
      show text = Text.dotted names ++ text.dropWhile (!opens ·)
      rw [← htext]
      exact List.takeWhile_append_dropWhile.symm
    · exact absurd h (by simp)
  · rintro ⟨⟨hpath, hsuffix⟩, rfl⟩
    obtain ⟨names, suffix⟩ := cut
    -- the path holds no opening bracket, and the suffix starts with one
    have hnames := not_opens_of_mem_path hpath
    have hstop : ∀ c, suffix.head? = some c → (!opens c) = false := by
      rcases ends_of_isSuffix hsuffix with rfl | ⟨first, middle, last, rfl, hopens, -⟩
      · simp
      · simp [hopens]
    have htake : (Cut.text ⟨names, suffix⟩).takeWhile (!opens ·) = Text.dotted names := by
      rw [Cut.text, Text.takeWhile_append_eq_left hnames hstop]
    have hdrop : (Cut.text ⟨names, suffix⟩).dropWhile (!opens ·) = suffix := by
      rw [Cut.text, Text.dropWhile_append_eq_right hnames hstop]
    have hsplit : pathNames? (Text.dotted names) = some names :=
      pathNames?_eq_some_iff.mpr ⟨hpath, rfl⟩
    have hsuffix' : TypeRef.isSuffix suffix = true := hsuffix
    simp [cut?, htake, hdrop, hsplit, hsuffix']

namespace Cut.WellFormed

/-- A well-formed cut starts with a character that starts an identifier. -/
theorem exists_cons (h : cut.WellFormed) :
    ∃ first rest, cut.text = first :: rest ∧ Identifier.starts first = true := by
  obtain ⟨first, rest, hcons, hfirst⟩ := h.path.exists_cons
  exact ⟨first, rest ++ cut.suffix, by simp [Cut.text, hcons], hfirst⟩

/-- A well-formed cut ends with a character of an identifier or a closing bracket. -/
theorem exists_concat (h : cut.WellFormed) :
    ∃ front last, cut.text = front ++ [last] ∧
      (Identifier.continues last = true ∨ closes last = true) := by
  rcases ends_of_isSuffix h.isSuffix with hnil | ⟨first, middle, last, hends, -, hlast⟩
  · obtain ⟨front, last, hconcat, hlast⟩ := h.path.exists_concat
    exact ⟨front, last, by simp [Cut.text, hnil, hconcat], Or.inl hlast⟩
  · refine ⟨Text.dotted cut.names ++ first :: middle, last, ?_, Or.inr hlast⟩
    simp [Cut.text, hends]

/-- What a reference does not end with. -/
theorem last_ne {front : Text} {last : Char} (h : cut.WellFormed) (htext : cut.text = front ++ [last])
    {d : Char} (hd : Identifier.continues d = false) (hd' : closes d = false) : last ≠ d := by
  obtain ⟨front', last', htext', hlast⟩ := h.exists_concat
  have hsame : last = last' := by
    have := htext.symm.trans htext'
    exact (List.append_inj' this rfl).2 |> List.singleton_inj.mp
  rintro rfl
  rw [← hsame, hd, hd'] at hlast
  simp at hlast

theorem newline_not_mem (h : cut.WellFormed) : '\n' ∉ cut.text := by
  have hpath := h.path.not_mem (c := '\n') (by decide) (by decide)
  have hsuffix := newline_not_mem_of_isSuffix h.isSuffix
  simp [Cut.text, hpath, hsuffix]

/-- Only the suffix of a cut opens and closes brackets. -/
theorem depthAfter?_eq (h : cut.WellFormed) (depth : Nat) :
    depthAfter? depth cut.text = depthAfter? depth cut.suffix := by
  rw [Cut.text, depthAfter?_append, depthAfter?_path h.path]
  rfl

end Cut.WellFormed

/-! ## Arguments -/

/-- The mark of a nullable argument. -/
def question (nullable : Bool) : Text := if nullable then ['?'] else []

theorem isBlank_of_closes {c : Char} (h : closes c = true) : Unicode.isBlank c = false := by
  simp only [closes, Bool.or_eq_true, beq_iff_eq] at h
  rcases h with rfl | rfl <;> decide

/-- Trimming keeps to what is around an argument. -/
theorem trim_argument (h : cut.WellFormed) (nullable : Bool) :
    Text.trim (cut.text ++ question nullable) = cut.text ++ question nullable := by
  obtain ⟨first, rest, hcons, hfirst⟩ := h.exists_cons
  obtain ⟨front, last, hconcat, hlast⟩ := h.exists_concat
  have hblank := Identifier.isBlank_of_continues (Identifier.continues_of_starts hfirst)
  cases nullable with
  | true =>
    have hfront : cut.text ++ ['?'] = first :: (rest ++ ['?']) := by rw [hcons, List.cons_append]
    exact Text.trim_of_ends hfront rfl hblank (by decide)
  | false =>
    have hblank' : Unicode.isBlank last = false := by
      rcases hlast with hlast | hlast
      · exact Identifier.isBlank_of_continues hlast
      · exact isBlank_of_closes hlast
    have hsame : cut.text ++ question false = cut.text := List.append_nil _
    rw [hsame]
    exact Text.trim_of_ends hcons hconcat hblank hblank'

/-- An argument is a reference and its mark, with white space around them. -/
theorem cutArg?_eq_some_iff {piece : Text} {nullable : Bool} :
    cutArg? piece = some (cut, nullable) ↔
      cut.WellFormed ∧ Text.trim piece = cut.text ++ question nullable := by
  unfold cutArg?
  constructor
  · intro h
    simp only at h
    split at h
    · next type hmark =>
      obtain ⟨found, hfound, heq⟩ := Option.map_eq_some_iff.mp h
      cases heq
      obtain ⟨hwell, rfl⟩ := cut?_eq_some_iff.mp hfound
      exact ⟨hwell, (List.isSuffixOf?_eq_some_iff_append_eq.mp hmark).symm⟩
    · obtain ⟨found, hfound, heq⟩ := Option.map_eq_some_iff.mp h
      cases heq
      obtain ⟨hwell, htext⟩ := cut?_eq_some_iff.mp hfound
      exact ⟨hwell, by rw [htext]; exact (List.append_nil _).symm⟩
  · rintro ⟨hwell, htrim⟩
    have hcut : cut? cut.text = some cut := cut?_eq_some_iff.mpr ⟨hwell, rfl⟩
    cases nullable with
    | true =>
      have hmark : ['?'].isSuffixOf? (Text.trim piece) = some cut.text :=
        List.isSuffixOf?_eq_some_iff_append_eq.mpr htrim.symm
      simp [hmark, hcut]
    | false =>
      have hsame : Text.trim piece = cut.text := htrim.trans (List.append_nil _)
      have hmark : ['?'].isSuffixOf? cut.text = none := by
        rw [Option.eq_none_iff_forall_ne_some]
        intro type htype
        -- a reference does not end with a question mark
        have hend := List.isSuffixOf?_eq_some_iff_append_eq.mp htype
        exact hwell.last_ne hend.symm (by decide) (by decide) rfl
      simp [hmark, hsame, hcut]

/-- Each argument comes from a piece, and there are as many. -/
theorem cutArg?_of_mem {pieces : List Text} {args : List (Cut × Bool)}
    (h : pieces.mapM cutArg? = some args) :
    args.length = pieces.length ∧ ∀ arg ∈ args, ∃ piece ∈ pieces, cutArg? piece = some arg := by
  induction pieces generalizing args with
  | nil =>
    cases h
    exact ⟨rfl, by simp⟩
  | cons piece pieces ih =>
    simp only [List.mapM_cons, bind, Option.bind_eq_some_iff] at h
    obtain ⟨arg, harg, args', hargs, heq⟩ := h
    cases heq
    obtain ⟨hlength, hmem⟩ := ih hargs
    refine ⟨by simp [hlength], fun other hother => ?_⟩
    rcases List.mem_cons.mp hother with rfl | hother
    · exact ⟨piece, by simp, harg⟩
    · obtain ⟨piece', hpiece', hcut⟩ := hmem other hother
      exact ⟨piece', by simp [hpiece'], hcut⟩

/-- A mark after a reference does not change where it may be cut. -/
theorem depthAfter?_argument (h : cut.WellFormed) (nullable : Bool) {depth : Nat} :
    depthAfter? depth (cut.text ++ question nullable) = depthAfter? depth cut.suffix := by
  have hmark : ∀ depth, depthAfter? depth (question nullable) = some depth := by
    intro depth
    apply depthAfter?_of_neutral
    have hneutral : IsNeutral '?' := ⟨rfl, rfl, by decide⟩
    cases nullable <;> simp [question, hneutral]
  rw [depthAfter?_append, h.depthAfter?_eq]
  simp [hmark]

/-- A suffix is cut into arguments in three steps, none of which may fail. -/
theorem cutArgs?_eq_some_iff {bracket : Bracket} {args : List (Cut × Bool)} :
    cutArgs? text = some (bracket, args) ↔
      ∃ inner pieces, text = bracket.opening :: (inner ++ [bracket.closing]) ∧
        topLevelPieces? 0 inner = some pieces ∧ pieces.mapM cutArg? = some args := by
  constructor
  · intro h
    simp only [cutArgs?, bind, Option.bind_eq_some_iff, Prod.exists] at h
    obtain ⟨found, inner, hgroup, pieces, hpieces, cuts, hcuts, heq⟩ := h
    cases heq
    exact ⟨inner, pieces, group?_eq_some_iff.mp hgroup, hpieces, hcuts⟩
  · intro ⟨inner, pieces, htext, hpieces, hcuts⟩
    simp [cutArgs?, group?_eq_some_iff.mpr htext, hpieces, hcuts]

/-- A group is cut into references, at least one, and their suffixes are never cut. -/
theorem args_of_cutArgs? {bracket : Bracket} {args : List (Cut × Bool)}
    (h : cutArgs? text = some (bracket, args)) :
    args ≠ [] ∧ ∀ arg ∈ args, arg.1.WellFormed ∧ IsPiece arg.1.suffix := by
  obtain ⟨inner, pieces, -, hpieces, hcuts⟩ := cutArgs?_eq_some_iff.mp h
  obtain ⟨first, others, rfl, hfirst, hothers, -⟩ := pieces_of_topLevelPieces? hpieces
  have hall : ∀ piece ∈ first :: others, IsPiece piece := by
    intro piece hpiece
    rcases List.mem_cons.mp hpiece with rfl | hpiece
    · exact hfirst
    · exact hothers piece hpiece
  obtain ⟨hlength, hmem⟩ := cutArg?_of_mem hcuts
  refine ⟨List.ne_nil_of_length_pos (by simp [hlength]), fun ⟨cut, nullable⟩ harg => ?_⟩
  obtain ⟨piece, hpiece, hcut⟩ := hmem _ harg
  obtain ⟨hwell, htrim⟩ := cutArg?_eq_some_iff.mp hcut
  refine ⟨hwell, ?_⟩
  show depthAfter? 0 cut.suffix = some 0
  rw [← depthAfter?_argument hwell nullable, ← htrim, depthAfter?_trim]
  exact hall piece hpiece

end JvmSource.TypeRef
