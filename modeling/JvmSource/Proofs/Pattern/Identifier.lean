import Mathlib.Data.List.Basic
import Mathlib.Tactic.Common
import JvmSource.Proofs.Identifier
import JvmSource.Proofs.Pattern.Stretch

/-!
# Patterns of identifiers

The pattern of an identifier as it stands in larger patterns: a letter or an underscore, and then
any number of letters, numbers and underscores. What it denotes are the identifiers that are read
character by character.
-/

namespace JvmSource.Pattern

open Unicode

/-- Characters that an identifier may start with. -/
def startSet : CharSet := .unions [Category.sets Category.letters, .single '_']

/-- Characters that an identifier may go on with. -/
def continueSet : CharSet :=
  .unions [Category.sets Category.letters, Category.sets Category.numbers, .single '_']

/-- An identifier. -/
def identifier : List Pattern := [.one startSet, .repeated 0 none (.one continueSet)]

theorem contains_startSet {c : Char} :
    startSet.contains c = true ↔ isLetter c = true ∨ c = '_' := by
  simp [startSet, CharSet.contains_unions, CharSet.contains_single, Category.contains_letters]

theorem contains_continueSet {c : Char} :
    continueSet.contains c = true ↔ isLetter c = true ∨ isNumber c = true ∨ c = '_' := by
  simp [continueSet, CharSet.contains_unions, CharSet.contains_single, Category.contains_letters,
    Category.contains_numbers]

/-- The pattern of an identifier denotes the identifiers. -/
theorem denotes_identifier : (sequences identifier).Denotes IsIdentifier := by
  refine (denotes_one.sequence denotes_many_one).congr fun stretch => ?_
  simp only [contains_startSet, contains_continueSet]
  constructor
  · rintro ⟨_, rest, rfl, ⟨first, rfl, hfirst⟩, hrest⟩
    exact .mk hfirst hrest
  · rintro @⟨first, rest, hfirst, hrest⟩
    exact ⟨[first], rest, rfl, ⟨first, rfl, hfirst⟩, hrest⟩

/-- Pieces that are each made from an identifier are made from a list of identifiers. -/
theorem exists_names {spell : Text → Text} {pieces : List Text}
    (h : ∀ piece ∈ pieces, ∃ name, IsIdentifier name ∧ piece = spell name) :
    ∃ names : List Text, (∀ name ∈ names, IsIdentifier name) ∧ pieces = names.map spell := by
  induction pieces with
  | nil => exact ⟨[], by simp, rfl⟩
  | cons piece pieces ih =>
    obtain ⟨⟨name, hname, rfl⟩, hpieces⟩ := List.forall_mem_cons.mp h
    obtain ⟨names, hnames, rfl⟩ := ih hpieces
    exact ⟨name :: names, List.forall_mem_cons.mpr ⟨hname, hnames⟩, rfl⟩

end JvmSource.Pattern
