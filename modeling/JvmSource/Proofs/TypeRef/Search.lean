import Mathlib.Data.List.Basic
import Mathlib.Tactic.Common
import JvmSource.Pattern.Meaning
import JvmSource.Proofs.Pattern.Identifier
import JvmSource.Proofs.TypeRef.Grammar

/-!
# References as a pattern

A reference is cut where two groups of a pattern match: a dotted path, and then any number of
bracket groups. The pattern is anchored at both ends of the text, so there is no more than one way
to match it, although the bracket groups may share the suffix among them in many ways. Reading
accepts what the pattern matches, and finds the names that stand between the dots of its first
group.
-/

namespace JvmSource.TypeRef

open Pattern Unicode

/-- The pattern of a reference, as it is written. -/
def patternText : Text :=
  ("^((?:[\\p\x7bL\x7d_][\\p\x7bL\x7d\\p\x7bN\x7d_]*\\.)*" ++
    "[\\p\x7bL\x7d_][\\p\x7bL\x7d\\p\x7bN\x7d_]*)((?:<.*>|\\[.*\\])*)$").toList

/-- The characters that a line is made of. -/
def lineSet : CharSet := (CharSet.single '\n').complement

/-- A dotted path. -/
def pathPattern : Pattern :=
  sequences (.repeated 0 none (.group false (sequences (identifier ++ [.one (.single '.')]))) ::
    identifier)

/-- A bracket group on one line. -/
def groupPattern (bracket : Bracket) : Pattern :=
  sequences [.one (.single bracket.opening), .repeated 0 none (.one lineSet),
    .one (.single bracket.closing)]

/-- Any number of bracket groups of both kinds. -/
def suffixPattern : Pattern :=
  .repeated 0 none (.group false (eithers [groupPattern .angle, groupPattern .square]))

/-- The pattern of a reference. -/
def pattern : Pattern :=
  sequences [.anchor .textStart, .group true pathPattern, .group true suffixPattern, .anchor .textEnd]

/-- The text of the pattern is read as the pattern. -/
theorem meaning_patternText :
    ((readExpr? patternText).bind (·.meaning? {})).map Prod.fst = some pattern := by
  rfl

/-! ## What the parts of the pattern denote -/

theorem contains_lineSet {c : Char} : lineSet.contains c = true ↔ c ≠ '\n' := by
  have hranges : lineSet.ranges = [(0, 0x9), (0xB, 0xD7FF), (0xE000, 0x10FFFF)] := by
    decide +kernel
  have hcovers : lineSet.contains c = true ↔
      c.toNat ≤ 0x9 ∨ (0xB ≤ c.toNat ∧ c.toNat ≤ 0xD7FF) ∨
        (0xE000 ≤ c.toNat ∧ c.toNat ≤ 0x10FFFF) := by
    simp [CharSet.contains, Ranges.contains, Ranges.covers, hranges]
  have hne : c ≠ '\n' ↔ c.toNat ≠ 0xA := by
    rw [Ne, ← Char.toNat_inj]
    rfl
  have hvalid : c.toNat < 0xD800 ∨ 0xDFFF < c.toNat ∧ c.toNat < 0x110000 := c.valid
  rw [hcovers, hne]
  omega

/-- A path is any number of identifiers with a dot after each, and then an identifier. -/
theorem denotes_pathPattern :
    pathPattern.Denotes fun stretch => ∃ names, names ≠ [] ∧ (∀ name ∈ names, IsIdentifier name) ∧
      stretch = Text.dotted names := by
  have hdot : (sequences [.one (.single '.')]).Denotes fun stretch => stretch = ['.'] :=
    denotes_single '.'
  -- each name but the last is matched together with its dot
  have hqualifiers := ((denotes_identifier.append hdot).group false).many
  refine (hqualifiers.cons denotes_identifier).congr fun stretch => ?_
  constructor
  · rintro ⟨_, last, rfl, ⟨pieces, rfl, hpieces⟩, hlast⟩
    have hspelled : ∀ piece ∈ pieces, ∃ name, IsIdentifier name ∧ piece = name ++ ['.'] := by
      intro piece hpiece
      obtain ⟨name, _, rfl, hname, rfl⟩ := hpieces piece hpiece
      exact ⟨name, hname, rfl⟩
    obtain ⟨names, hnames, rfl⟩ := exists_names hspelled
    refine ⟨names ++ [last], by simp, ?_, (Text.dotted_concat_eq_append names last).symm⟩
    exact List.forall_mem_append.mpr ⟨hnames, List.forall_mem_singleton.mpr hlast⟩
  · rintro ⟨names, hne, hnames, rfl⟩
    obtain ⟨front, last, rfl⟩ : ∃ front last, names = front ++ [last] :=
      ⟨_, _, (List.dropLast_concat_getLast hne).symm⟩
    obtain ⟨hfront, hlast⟩ := List.forall_mem_append.mp hnames
    refine ⟨_, last, Text.dotted_concat_eq_append front last, ⟨_, rfl, fun piece hpiece => ?_⟩,
      hlast last (List.mem_singleton_self last)⟩
    obtain ⟨name, hname, rfl⟩ := List.mem_map.mp hpiece
    exact ⟨name, ['.'], rfl, hfront name hname, rfl⟩

/-- A group is matched by its brackets with anything on the line between them. -/
theorem denotes_groupPattern (bracket : Bracket) :
    (groupPattern bracket).Denotes fun stretch =>
      ∃ inner, '\n' ∉ inner ∧ stretch = bracket.group inner := by
  have hclosing : (sequences [.one (.single bracket.closing)]).Denotes fun stretch =>
      stretch = [bracket.closing] := denotes_single bracket.closing
  refine ((denotes_single bracket.opening).cons (denotes_many_one.cons hclosing)).congr
    fun stretch => ?_
  simp only [contains_lineSet]
  constructor
  · rintro ⟨_, _, rfl, rfl, inner, _, rfl, hinner, rfl⟩
    exact ⟨inner, fun hmem => hinner _ hmem rfl, rfl⟩
  · rintro ⟨inner, hinner, rfl⟩
    exact ⟨[bracket.opening], _, rfl, rfl, inner, _, rfl, fun c hc heq => hinner (heq ▸ hc), rfl⟩

/-- Bracket groups that are each on one line are bracket groups on one line. -/
theorem groups_iff_exists_pieces {text : Text} :
    '\n' ∉ text ∧ Groups text ↔ ∃ pieces : List Text, text = pieces.flatten ∧
      ∀ piece ∈ pieces, ∃ (bracket : Bracket) (inner : Text), '\n' ∉ inner ∧
        piece = bracket.group inner := by
  constructor
  · rintro ⟨hline, hgroups⟩
    induction hgroups with
    | nil => exact ⟨[], rfl, by simp⟩
    | cons bracket inner groups ih =>
      simp only [Bracket.group, List.mem_append, List.mem_cons, not_or] at hline
      obtain ⟨pieces, rfl, hpieces⟩ := ih hline.2
      exact ⟨bracket.group inner :: pieces, rfl,
        List.forall_mem_cons.mpr ⟨⟨bracket, inner, hline.1.2.1, rfl⟩, hpieces⟩⟩
  · rintro ⟨pieces, rfl, hpieces⟩
    induction pieces with
    | nil => exact ⟨by simp, .nil⟩
    | cons piece pieces ih =>
      obtain ⟨⟨bracket, inner, hinner, rfl⟩, hothers⟩ := List.forall_mem_cons.mp hpieces
      obtain ⟨hline, hgroups⟩ := ih hothers
      -- brackets end no line, so the line ends within no group
      have hbrackets : '\n' ≠ bracket.opening ∧ '\n' ≠ bracket.closing := by
        cases bracket <;> decide
      refine ⟨?_, .cons bracket inner hgroups⟩
      simp [Bracket.group, hbrackets, hinner, hline]

/-- The suffix pattern is matched by groups in a row that stay on the line. -/
theorem denotes_suffixPattern :
    suffixPattern.Denotes fun stretch => '\n' ∉ stretch ∧ Groups stretch := by
  have hgroup : (Pattern.group false (eithers [groupPattern .angle, groupPattern .square])).Denotes
      fun stretch => ∃ (bracket : Bracket) (inner : Text), '\n' ∉ inner ∧
        stretch = bracket.group inner := by
    refine (((denotes_groupPattern .angle).either (denotes_groupPattern .square)).group false).congr
      fun stretch => ?_
    constructor
    · rintro (h | h)
      · exact ⟨.angle, h⟩
      · exact ⟨.square, h⟩
    · rintro ⟨bracket, h⟩
      cases bracket with
      | angle => exact Or.inl h
      | square => exact Or.inr h
  exact hgroup.many.congr fun stretch => groups_iff_exists_pieces.symm

/-! ## Reading -/

/-- A text is cut into what the groups of the pattern match, with the names between the dots of the
path. -/
theorem cut?_eq_some_iff_findsGroups {names : List Text} {suffix text : Text} :
    cut? text = some ⟨names, suffix⟩ ↔
      ∃ path, pattern.FindsGroups text [path, suffix] ∧ names = Text.split '.' path := by
  simp only [cut?_eq_some_iff_spells, spells_iff_groups, pattern,
    findsGroups_iff_append denotes_pathPattern denotes_suffixPattern]
  constructor
  · rintro ⟨hne, hidentifiers, hsuffix, rfl⟩
    have hpath : IsPath names := isPath_iff.mpr ⟨hne, hidentifiers⟩
    exact ⟨Text.dotted names, ⟨⟨names, hne, hidentifiers, rfl⟩, hsuffix, rfl⟩,
      hpath.split_dotted.symm⟩
  · rintro ⟨_, ⟨⟨names', hne, hidentifiers, rfl⟩, hsuffix, rfl⟩, rfl⟩
    have hpath : IsPath names' := isPath_iff.mpr ⟨hne, hidentifiers⟩
    rw [hpath.split_dotted]
    exact ⟨hne, hidentifiers, hsuffix, rfl⟩

/-- Reading accepts the texts of the grammar and no others. It finds the names that spell the text,
in order, and where it fails it names the text. The suffix is any number of bracket groups on one
line. A text is cut into the names and the suffix that spell it, and these are what the two groups
of the pattern of a reference match. -/
theorem parse_grammar (text : Text) :
    ((∃ type, parse text = .ok type) ↔ ∃ names suffix, Spells names suffix text) ∧
      (∀ type names suffix, parse text = .ok type → Spells names suffix text →
        type.names = names) ∧
      (∀ fault, parse text = .error fault → fault = .invalidReference text) ∧
      (∀ names suffix, Spells names suffix text ↔
        names ≠ [] ∧ (∀ name ∈ names, IsIdentifier name) ∧ ('\n' ∉ suffix ∧ Groups suffix) ∧
          text = Text.dotted names ++ suffix) ∧
      ∃ p : Pattern, ((readExpr? patternText).bind (·.meaning? {})).map Prod.fst = some p ∧
        ∀ names suffix, (cut? text = some ⟨names, suffix⟩ ↔ Spells names suffix text) ∧
          (cut? text = some ⟨names, suffix⟩ ↔
            ∃ path, p.FindsGroups text [path, suffix] ∧ names = Text.split '.' path) := by
  refine ⟨⟨?_, ?_⟩, ?_, ?_, fun names suffix => spells_iff_groups, pattern, meaning_patternText,
    fun names suffix => ⟨cut?_eq_some_iff_spells, cut?_eq_some_iff_findsGroups⟩⟩
  · intro ⟨type, htype⟩
    obtain ⟨⟨names, suffix⟩, hcut, -⟩ := parse_eq_ok_iff_descend.mp htype
    exact ⟨names, suffix, cut?_eq_some_iff_spells.mp hcut⟩
  · intro ⟨names, suffix, hspells⟩
    exact ⟨_, parse_eq_ok_iff_descend.mpr ⟨_, cut?_eq_some_iff_spells.mpr hspells, rfl⟩⟩
  · intro type names suffix htype hspells
    obtain ⟨cut, hcut, rfl⟩ := parse_eq_ok_iff_descend.mp htype
    have hsame : cut = ⟨names, suffix⟩ :=
      Option.some.inj (hcut.symm.trans (cut?_eq_some_iff_spells.mpr hspells))
    rw [names_descend, hsame]
  · intro fault hfault
    exact (parse_eq_error_iff.mp hfault).2

end JvmSource.TypeRef
