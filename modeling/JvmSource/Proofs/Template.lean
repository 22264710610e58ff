import Mathlib.Data.List.Infix
import Mathlib.Tactic.Common
import JvmSource.Template

/-!
# Templates in pieces

What a template is filled in to consists of the texts of its arguments and of what stands between
them. The latter are parts of the template but for its percent signs: where a text without percent
signs occurs in such a piece, it occurs in the template.
-/

namespace JvmSource.Template

/-- Puts text before a filled in template. -/
def before (text : Text) : List Text → List Text
  | [] => [text]
  | piece :: pieces => (text ++ piece) :: pieces

/-- A filled in template in pieces: the text before the first argument, the argument, and so on. -/
def substitutePieces : Text → List Arg → List Text
  | '%' :: 's' :: rest, arg :: args => [] :: arg.display :: substitutePieces rest args
  | '%' :: 's' :: rest, [] => before ['%', 's'] (substitutePieces rest [])
  | '%' :: '%' :: rest, args => before ['%'] (substitutePieces rest args)
  | c :: rest, args => before [c] (substitutePieces rest args)
  | [], _ => [[]]

/-- The pieces that `format` puts together. -/
def pieces (template : Text) (args : List Arg) : List Text :=
  if args.isEmpty then [template] else substitutePieces template args

variable {template piece : Text} {args : List Arg}

theorem flatten_before (text : Text) (pieces : List Text) :
    (before text pieces).flatten = text ++ pieces.flatten := by
  cases pieces <;> simp [before]

/-- The pieces of a filled in template make it up. -/
theorem flatten_substitutePieces (template : Text) (args : List Arg) :
    (substitutePieces template args).flatten = substitute template args := by
  induction template, args using substitutePieces.induct with
  | case1 rest arg args ih => simp [substitutePieces, substitute, ih]
  | case2 rest ih => simp [substitutePieces, substitute, flatten_before, ih]
  | case3 rest args ih => simp [substitutePieces, substitute, flatten_before, ih]
  | case4 c rest args harg hnone hsign ih =>
    rw [substitutePieces.eq_4 args c rest hsign harg hnone,
      substitute.eq_4 args c rest hsign harg hnone, flatten_before, ih]
    rfl
  | case5 args => simp [substitutePieces, substitute]

/-- The pieces of a formatted template make it up. -/
theorem flatten_pieces (template : Text) (args : List Arg) :
    (pieces template args).flatten = format template args := by
  unfold pieces format
  split
  · simp
  · exact flatten_substitutePieces template args

/-! ## Parts of the template -/

/-- Whether what starts or occurs in a piece does so in a template too, percent signs apart. -/
structure KeptIn (template piece : Text) : Prop where
  starts : ∀ part, '%' ∉ part → part <+: piece → part <+: template
  occurs : ∀ part, '%' ∉ part → part <:+: piece → part <:+: template

theorem keptIn_nil (template : Text) : KeptIn template [] where
  starts part _ h := by
    rw [List.prefix_nil.mp h]
    exact List.nil_prefix
  occurs part _ h := by
    rw [List.infix_nil.mp h]
    exact List.nil_infix

theorem keptIn_self (template : Text) : KeptIn template template where
  starts _ _ h := h
  occurs _ _ h := h

theorem KeptIn.cons (h : KeptIn template piece) (c : Char) :
    KeptIn (c :: template) (c :: piece) := by
  have hstarts : ∀ part, '%' ∉ part → part <+: c :: piece → part <+: c :: template := by
    intro part hpart hbegins
    cases part with
    | nil => exact List.nil_prefix
    | cons first part =>
      obtain ⟨rfl, hpiece⟩ := List.cons_prefix_cons.mp hbegins
      have hrest : '%' ∉ part := fun hmem => hpart (List.mem_cons_of_mem _ hmem)
      exact List.cons_prefix_cons.mpr ⟨rfl, h.starts part hrest hpiece⟩
  refine ⟨hstarts, fun part hpart hlies => ?_⟩
  rcases List.infix_cons_iff.mp hlies with hbegins | hlies
  · exact (hstarts part hpart hbegins).isInfix
  · exact List.infix_cons (h.occurs part hpart hlies)

/-- Of two percent signs one is left. -/
theorem KeptIn.sign (h : KeptIn template piece) :
    KeptIn ('%' :: '%' :: template) ('%' :: piece) where
  starts part hpart hbegins := by
    cases part with
    | nil => exact List.nil_prefix
    | cons first part =>
      obtain ⟨rfl, -⟩ := List.cons_prefix_cons.mp hbegins
      exact absurd (List.mem_cons_self ..) hpart
  occurs part hpart hlies := List.infix_cons ((h.cons '%').occurs part hpart hlies)

/-- Whether a piece of a filled in template is an argument or comes from the end of the template. -/
def ComesFrom (template : Text) (args : List Arg) (piece : Text) : Prop :=
  (∃ arg ∈ args, piece = arg.display) ∨ ∃ rest, rest <:+ template ∧ KeptIn rest piece

/-- What comes from the end of a template, with some of its arguments, comes from the template. -/
theorem ComesFrom.trans {rest : Text} {later : List Arg} (h : ComesFrom rest later piece)
    (hrest : rest <:+ template) (hargs : later ⊆ args) : ComesFrom template args piece := by
  rcases h with ⟨arg, hmem, hpiece⟩ | ⟨found, hfound, hkept⟩
  · exact Or.inl ⟨arg, hargs hmem, hpiece⟩
  · exact Or.inr ⟨found, hfound.trans hrest, hkept⟩

/-- The first piece is a start of the template, and the others come from what is behind it. -/
theorem substitutePieces_cases (template : Text) (args : List Arg) :
    ∃ first others, substitutePieces template args = first :: others ∧ KeptIn template first ∧
      ∀ piece ∈ others, ComesFrom template args piece := by
  induction template, args using substitutePieces.induct with
  | case1 rest arg args ih =>
    obtain ⟨first, others, hpieces, hfirst, hothers⟩ := ih
    -- the argument ends the first piece, and a new one starts behind the placeholder
    have hrest : rest <:+ '%' :: 's' :: rest := ⟨['%', 's'], rfl⟩
    refine ⟨[], arg.display :: first :: others, by rw [substitutePieces, hpieces], keptIn_nil _, ?_⟩
    intro piece hpiece
    simp only [List.mem_cons] at hpiece
    rcases hpiece with rfl | rfl | hpiece
    · exact Or.inl ⟨arg, List.mem_cons_self .., rfl⟩
    · exact Or.inr ⟨rest, hrest, hfirst⟩
    · exact (hothers piece hpiece).trans hrest (List.subset_cons_self arg args)
  | case2 rest ih =>
    obtain ⟨first, others, hpieces, hfirst, hothers⟩ := ih
    refine ⟨'%' :: 's' :: first, others, by rw [substitutePieces, hpieces]; rfl,
      (hfirst.cons 's').cons '%', fun piece hpiece => ?_⟩
    exact (hothers piece hpiece).trans ⟨['%', 's'], rfl⟩ (List.Subset.refl _)
  | case3 rest args ih =>
    obtain ⟨first, others, hpieces, hfirst, hothers⟩ := ih
    refine ⟨'%' :: first, others, by rw [substitutePieces, hpieces]; rfl, hfirst.sign,
      fun piece hpiece => ?_⟩
    exact (hothers piece hpiece).trans ⟨['%', '%'], rfl⟩ (List.Subset.refl _)
  | case4 c rest args harg hnone hsign ih =>
    obtain ⟨first, others, hpieces, hfirst, hothers⟩ := ih
    refine ⟨c :: first, others, ?_, hfirst.cons c, fun piece hpiece => ?_⟩
    · rw [substitutePieces.eq_4 args c rest hsign harg hnone, hpieces]
      rfl
    · exact (hothers piece hpiece).trans (List.suffix_cons c rest) (List.Subset.refl _)
  | case5 args => exact ⟨[], [], by simp [substitutePieces], keptIn_nil _, by simp⟩

/-- Every piece is an argument or comes from the template. -/
theorem comesFrom_of_mem_pieces (h : piece ∈ pieces template args) :
    ComesFrom template args piece := by
  unfold pieces at h
  split at h
  · rw [List.mem_singleton.mp h]
    exact Or.inr ⟨template, List.suffix_refl _, keptIn_self template⟩
  · obtain ⟨first, others, hpieces, hfirst, hothers⟩ := substitutePieces_cases template args
    rw [hpieces] at h
    rcases List.mem_cons.mp h with rfl | h
    · exact Or.inr ⟨template, List.suffix_refl _, hfirst⟩
    · exact hothers piece h

end JvmSource.Template
