import Mathlib.Tactic.Common
import JvmSource.TypeRef.Printer
import JvmSource.Proofs.TypeRef.Cuts
import JvmSource.Proofs.TypeRef.Descent

/-!
# Printing and reading again

Reading leaves references of a particular shape: names are identifiers, an argument list is not
empty, and a suffix is kept as text only if it is no argument list or lies too deep. A reference of
that shape is read again from its text, which is `parse?_print`.
-/

namespace JvmSource.TypeRef

/-- Whether reading down to a number of rows can leave a reference. -/
inductive Canonical : (rows : Nat) → TypeRef → Prop where
  | bare {rows : Nat} {names : List Text} (path : IsPath names) : Canonical rows (.mk names .empty)
  | plain {rows : Nat} {names : List Text} {bracket : Bracket} {args : List TypeArg}
      (path : IsPath names) (ne_nil : args ≠ [])
      (types : ∀ arg ∈ args, Canonical rows arg.type)
      (pieces : ∀ arg ∈ args, ∀ text, arg.type.suffix = .verbatim text → IsPiece text) :
      Canonical (rows + 1) (.mk names (.plain bracket args))
  | verbatim {rows : Nat} {names : List Text} {text : Text} (path : IsPath names)
      (ne_nil : text ≠ []) (isSuffix : isSuffix text = true)
      (unread : rows = 0 ∨ cutArgs? text = none) : Canonical rows (.mk names (.verbatim text))

/-! ## What reading leaves -/

/-- A reference whose suffix is kept as text is canonical where no arguments are read from it. -/
theorem canonical_ofText {cut : Cut} {rows : Nat} (h : cut.WellFormed)
    (hunread : rows = 0 ∨ cutArgs? cut.suffix = none) :
    Canonical rows (.mk cut.names (.ofText cut.suffix)) := by
  obtain ⟨names, suffix⟩ := cut
  cases suffix with
  | nil => exact .bare h.path
  | cons c rest => exact .verbatim h.path (List.cons_ne_nil c rest) h.isSuffix hunread

/-- Without rows left, or without arguments to cut, a reference keeps its suffix as text. -/
theorem descend_of_unread {cut : Cut} {rows : Nat} (h : rows = 0 ∨ cutArgs? cut.suffix = none) :
    descend rows cut = .mk cut.names (.ofText cut.suffix) := by
  cases rows with
  | zero => rfl
  | succ rows =>
    have hnone : cutArgs? cut.suffix = none := by
      rcases h with h | h
      · exact absurd h (Nat.succ_ne_zero rows)
      · exact h
    rw [descend, hnone]

/-- With rows left, each argument that is cut is read with one row less. -/
theorem descend_of_cutArgs? {cut : Cut} {rows : Nat} {bracket : Bracket}
    {args : List (Cut × Bool)} (h : cutArgs? cut.suffix = some (bracket, args)) :
    descend (rows + 1) cut =
      .mk cut.names (.plain bracket (args.map fun arg => .mk (descend rows arg.1) arg.2)) := by
  rw [descend, h]

/-- Text that is kept is the text that was there. -/
theorem suffix_of_descend {cut : Cut} {rows : Nat} {text : Text}
    (h : (descend rows cut).suffix = .verbatim text) : text = cut.suffix := by
  have hof : ∀ suffix : Text, Suffix.ofText suffix = .verbatim text → text = suffix := by
    intro suffix hsuffix
    cases suffix with
    | nil => exact absurd hsuffix (by simp [Suffix.ofText])
    | cons c rest =>
      cases hsuffix
      rfl
  by_cases hunread : rows = 0 ∨ cutArgs? cut.suffix = none
  · rw [descend_of_unread hunread] at h
    exact hof cut.suffix h
  · obtain ⟨hrows, hargs⟩ := not_or.mp hunread
    obtain ⟨rows, rfl⟩ := Nat.exists_eq_succ_of_ne_zero hrows
    obtain ⟨⟨bracket, args⟩, hargs⟩ := Option.ne_none_iff_exists'.mp hargs
    rw [Nat.succ_eq_add_one, descend_of_cutArgs? hargs] at h
    exact absurd h (by simp [suffix])

/-- What is read from a well-formed cut is canonical. -/
theorem canonical_descend {cut : Cut} (h : cut.WellFormed) (rows : Nat) :
    Canonical rows (descend rows cut) := by
  induction rows generalizing cut with
  | zero => exact canonical_ofText h (Or.inl rfl)
  | succ rows ih =>
    cases hargs : cutArgs? cut.suffix with
    | none =>
      rw [descend_of_unread (Or.inr hargs)]
      exact canonical_ofText h (Or.inr hargs)
    | some found =>
      obtain ⟨bracket, args⟩ := found
      obtain ⟨hne, hall⟩ := args_of_cutArgs? hargs
      rw [descend_of_cutArgs? hargs]
      refine .plain h.path (by simpa using hne) ?_ ?_
      · intro arg harg
        obtain ⟨found, hfound, rfl⟩ := List.mem_map.mp harg
        exact ih (hall found hfound).1
      · intro arg harg text htext
        obtain ⟨found, hfound, rfl⟩ := List.mem_map.mp harg
        rw [suffix_of_descend htext]
        exact (hall found hfound).2

/-- Reading leaves references of the canonical shape. -/
theorem canonical_of_parse? {text : Text} {type : TypeRef} (h : parse? text = some type) :
    Canonical maxDepth type := by
  rw [parse?_eq, Option.map_eq_some_iff] at h
  obtain ⟨cut, hcut, rfl⟩ := h
  exact canonical_descend (cut?_eq_some_iff.mp hcut).1 maxDepth

/-! ## What printing leaves -/

/-- The path and the printed suffix of a reference. -/
def toCut (type : TypeRef) : Cut := ⟨type.names, type.suffix.print⟩

/-- A printed reference is its path before its printed suffix. -/
theorem print_eq_text (type : TypeRef) : type.print = type.toCut.text := by
  cases type
  rfl

/-- A printed argument is its printed reference, with a question mark if it is nullable. -/
theorem print_arg (arg : TypeArg) : arg.print = arg.type.toCut.text ++ question arg.nullable := by
  obtain ⟨type, nullable⟩ := arg
  rw [TypeArg.print, print_eq_text]
  rfl

/-- Whether an argument is cut out of its text again, and never cut itself. -/
structure Cuttable (arg : TypeArg) : Prop where
  wellFormed : arg.type.toCut.WellFormed
  isPiece : IsPiece arg.type.suffix.print

namespace Cuttable

variable {arg : TypeArg}

/-- A printed argument that is cut out again closes all brackets it opens. -/
theorem depthAfter?_print (h : Cuttable arg) : depthAfter? 0 arg.print = some 0 := by
  rw [print_arg, depthAfter?_argument h.wellFormed]
  exact h.isPiece

/-- A printed argument that is cut out again has no line feed. -/
theorem newline_not_mem (h : Cuttable arg) : '\n' ∉ arg.print := by
  have htext := h.wellFormed.newline_not_mem
  rw [print_arg]
  cases arg.nullable <;> simp [question, htext]

/-- White space before an argument is not read. -/
theorem cutArg?_append (h : Cuttable arg) {lead : Text}
    (hlead : ∀ c ∈ lead, Unicode.isBlank c = true) :
    cutArg? (lead ++ arg.print) = some (arg.type.toCut, arg.nullable) := by
  refine cutArg?_eq_some_iff.mpr ⟨h.wellFormed, ?_⟩
  have hskip : Text.trim (lead ++ arg.print) = Text.trim arg.print := by
    induction lead with
    | nil => rfl
    | cons c lead ih =>
      rw [List.cons_append, Text.trim_cons (hlead c (by simp))]
      exact ih fun c hc => hlead c (by simp [hc])
  rw [hskip, print_arg, trim_argument h.wellFormed]

end Cuttable

theorem printAll_cons_cons (arg arg' : TypeArg) (args : List TypeArg) :
    TypeArg.printAll (arg :: arg' :: args) =
      arg.print ++ ',' :: ([' '] ++ TypeArg.printAll (arg' :: args)) := by
  rw [TypeArg.printAll]
  · rfl
  · simp

/-- Printed arguments are cut where they were joined. -/
theorem cut_printAll {args : List TypeArg} (hne : args ≠ []) (h : ∀ arg ∈ args, Cuttable arg)
    {lead : Text} (hlead : ∀ c ∈ lead, Unicode.isBlank c = true) :
    (topLevelPieces? 0 (lead ++ TypeArg.printAll args)).bind (·.mapM cutArg?) =
      some (args.map fun arg => (arg.type.toCut, arg.nullable)) := by
  induction args generalizing lead with
  | nil => exact absurd rfl hne
  | cons arg args ih =>
    have harg : Cuttable arg := h arg (by simp)
    -- the space in front of an argument belongs to its piece
    have hpiece : depthAfter? 0 (lead ++ arg.print) = some 0 := by
      rw [depthAfter?_append, depthAfter?_of_neutral fun c hc => neutral_of_isBlank (hlead c hc)]
      exact harg.depthAfter?_print
    cases args with
    | nil =>
      rw [TypeArg.printAll, topLevelPieces?_of_piece hpiece]
      simp [harg.cutArg?_append hlead]
    | cons arg' args =>
      have hspace : ∀ c ∈ [' '], Unicode.isBlank c = true := by
        simp only [List.mem_singleton, forall_eq]
        decide
      have hrest := ih (by simp) (fun arg harg => h arg (by simp [harg])) hspace
      obtain ⟨pieces, hpieces, hcuts⟩ := Option.bind_eq_some_iff.mp hrest
      rw [printAll_cons_cons, ← List.append_assoc, topLevelPieces?_append_comma hpiece, hpieces]
      simp [harg.cutArg?_append hlead, hcuts]

/-- Inside of brackets the commas between arguments do not count. -/
theorem depthAfter?_printAll {args : List TypeArg} (h : ∀ arg ∈ args, Cuttable arg) :
    depthAfter? 1 (TypeArg.printAll args) = some 1 := by
  induction args with
  | nil => rfl
  | cons arg args ih =>
    have harg : depthAfter? 1 arg.print = some 1 :=
      depthAfter?_succ (h arg (by simp)).depthAfter?_print
    cases args with
    | nil => exact harg
    | cons arg' args =>
      rw [printAll_cons_cons, depthAfter?_append, harg]
      exact ih fun arg harg => h arg (by simp [harg])

/-- Printed arguments have no line feed. -/
theorem newline_not_mem_printAll {args : List TypeArg} (h : ∀ arg ∈ args, Cuttable arg) :
    '\n' ∉ TypeArg.printAll args := by
  induction args with
  | nil => simp [TypeArg.printAll]
  | cons arg args ih =>
    have harg := (h arg (by simp)).newline_not_mem
    cases args with
    | nil => exact harg
    | cons arg' args =>
      have hrest := ih fun arg harg => h arg (by simp [harg])
      rw [printAll_cons_cons]
      simp [harg, hrest]

/-- Printed arguments between their brackets are never cut from outside. -/
theorem isPiece_plain {args : List TypeArg} (bracket : Bracket) (h : ∀ arg ∈ args, Cuttable arg) :
    IsPiece (Suffix.plain bracket args).print := by
  have hopen : nest? 0 bracket.opening = some 1 := by cases bracket <;> rfl
  have hclose : depthAfter? 1 [bracket.closing] = some 0 := by cases bracket <;> rfl
  rw [IsPiece, Suffix.print, depthAfter?_cons, hopen]
  show depthAfter? 1 (TypeArg.printAll args ++ [bracket.closing]) = some 0
  rw [depthAfter?_append, depthAfter?_printAll h]
  exact hclose

/-! ## Round trip -/

/-- An argument is cut out of its text again when its path is well formed and its suffix is a
piece. -/
theorem Cuttable.of_piece {arg : TypeArg} (hwell : arg.type.toCut.WellFormed)
    (hkept : (∃ text, arg.type.suffix = .verbatim text) ∨ IsPiece arg.type.suffix.print)
    (hpieces : ∀ text, arg.type.suffix = .verbatim text → IsPiece text) : Cuttable arg := by
  refine ⟨hwell, ?_⟩
  rcases hkept with ⟨text, htext⟩ | hpiece
  · rw [htext]
    exact hpieces text htext
  · exact hpiece

/-- A canonical reference prints as a path and a suffix, and only text that is kept may be cut. -/
theorem wellFormed_toCut {rows : Nat} {type : TypeRef} (h : Canonical rows type) :
    type.toCut.WellFormed ∧
      ((∃ text, type.suffix = .verbatim text) ∨ IsPiece type.suffix.print) := by
  induction h with
  | bare path => exact ⟨⟨path, rfl⟩, Or.inr rfl⟩
  | verbatim path ne_nil isSuffix unread => exact ⟨⟨path, isSuffix⟩, Or.inl ⟨_, rfl⟩⟩
  | @plain rows names bracket args path ne_nil types pieces ih =>
    have hcuttable : ∀ arg ∈ args, Cuttable arg := fun arg harg =>
      Cuttable.of_piece (ih arg harg).1 (ih arg harg).2 (pieces arg harg)
    have hgroup := isSuffix_group bracket (newline_not_mem_printAll hcuttable)
    exact ⟨⟨path, hgroup⟩, Or.inr (isPiece_plain bracket hcuttable)⟩

/-- Printed arguments are read again, whatever brackets are around them. -/
theorem cutArgs?_plain {args : List TypeArg} (bracket : Bracket) (hne : args ≠ [])
    (h : ∀ arg ∈ args, Cuttable arg) :
    cutArgs? (Suffix.plain bracket args).print =
      some (bracket, args.map fun arg => (arg.type.toCut, arg.nullable)) := by
  have hnone : ∀ c ∈ ([] : Text), Unicode.isBlank c = true := by simp
  have hargs := cut_printAll hne h hnone
  obtain ⟨pieces, hpieces, hcuts⟩ := Option.bind_eq_some_iff.mp hargs
  rw [List.nil_append] at hpieces
  exact cutArgs?_eq_some_iff.mpr ⟨TypeArg.printAll args, pieces, rfl, hpieces, hcuts⟩

/-- A canonical reference is read again from its path and its printed suffix. -/
theorem descend_toCut {rows : Nat} {type : TypeRef} (h : Canonical rows type) :
    descend rows type.toCut = type := by
  induction h with
  | bare path => exact descend_of_unread (Or.inr rfl)
  | @verbatim rows names text path ne_nil isSuffix unread =>
    have hof : Suffix.ofText text = .verbatim text := by
      cases text with
      | nil => exact absurd rfl ne_nil
      | cons c rest => rfl
    have hdescend : descend rows (toCut (.mk names (.verbatim text))) = .mk names (.ofText text) :=
      descend_of_unread unread
    rw [hdescend, hof]
  | @plain rows names bracket args path ne_nil types pieces ih =>
    -- printing leaves arguments that can be cut out again
    have hcuttable : ∀ arg ∈ args, Cuttable arg := fun arg harg =>
      Cuttable.of_piece (wellFormed_toCut (types arg harg)).1 (wellFormed_toCut (types arg harg)).2
        (pieces arg harg)
    have hsame : ∀ arg ∈ args, TypeArg.mk (descend rows arg.type.toCut) arg.nullable = arg := by
      intro arg harg
      rw [ih arg harg]
      cases arg
      rfl
    have hargs := cutArgs?_plain bracket ne_nil hcuttable
    rw [descend_of_cutArgs? hargs, List.map_map]
    have hmap : args.map (fun arg => TypeArg.mk (descend rows arg.type.toCut) arg.nullable) = args :=
      (List.map_congr_left hsame).trans (List.map_id' args)
    exact congrArg (fun args => mk names (.plain bracket args)) hmap

/-- A canonical reference is read from its text. -/
theorem parse?_print {type : TypeRef} (h : Canonical maxDepth type) :
    parse? type.print = some type := by
  have hcut : cut? type.print = some type.toCut :=
    cut?_eq_some_iff.mpr ⟨(wellFormed_toCut h).1, print_eq_text type⟩
  rw [parse?_eq, hcut, Option.map_some, descend_toCut h]

end JvmSource.TypeRef
