import Mathlib.Tactic.Common
import JvmSource.Pattern.Meaning
import JvmSource.Writer.Basic
import JvmSource.Proofs.Import.Accounting
import JvmSource.Proofs.Resolver.Requests

/-!
# Excluded types

A pattern says which types are never imported. It is tried on the whole text of a reference, with
its members and its suffix, but what is imported is the class that the text starts with. So a
reference that is nothing but an excluded class is written in full, while an excluded class with
anything after it is imported, unless the pattern covers what comes after. There is no other way for
an excluded name to get into a table.
-/

namespace JvmSource

namespace Text

theorem dotted_append {first second : List Text} (hfirst : first ≠ []) (hsecond : second ≠ []) :
    dotted (first ++ second) = dotted first ++ '.' :: dotted second := by
  induction first with
  | nil => exact absurd rfl hfirst
  | cons name rest ih =>
    by_cases hrest : rest = []
    · subst hrest
      rw [List.cons_append, List.nil_append, dotted_cons hsecond]
      simp [dotted]
    · have hne : rest ++ second ≠ [] := by simp [hrest]
      rw [List.cons_append, dotted_cons hne, ih hrest, dotted_cons hrest, List.append_assoc]
      rfl

/-- A path starts with the paths of its first names. -/
theorem prefix_dotted_take (names : List Text) (count : Nat) :
    dotted (names.take count) <+: dotted names := by
  by_cases hfirst : names.take count = []
  · rw [hfirst]
    exact List.nil_prefix
  by_cases hsecond : names.drop count = []
  · have hall : names.take count = names := List.take_of_length_le (List.drop_eq_nil_iff.mp hsecond)
    exact ⟨[], by rw [hall, List.append_nil]⟩
  have happend := dotted_append hfirst hsecond
  rw [List.take_append_drop] at happend
  rw [happend]
  exact List.prefix_append _ _

end Text

namespace Resolver

/-- Whether a name is that of a type that is never imported. -/
def excludesName (resolver : Resolver) (name : Text) : Bool :=
  resolver.excluded.any (·.search name)

variable {resolver : Resolver} {scope : Scope}

/-! ## What offers a binding -/

/-- A reference that offers a binding is not excluded. -/
theorem excludes_of_offer? {type : TypeRef} {keep : Nat} {offer : Offer}
    (h : resolver.offer? scope type keep = some offer) :
    resolver.excludesName type.print = false := by
  rw [← Bool.not_eq_true]
  intro hexcludes
  have hexcludes' : resolver.excludes type = true := hexcludes
  unfold offer? at h
  rw [hexcludes'] at h
  exact absurd h (by simp)

/-- The text of a reference goes on where the name that it offers ends. -/
theorem exists_print_of_offer? {type : TypeRef} {keep : Nat} {offer : Offer}
    (h : resolver.offer? scope type keep = some offer) :
    ∃ rest, type.print = offer.qualified ++ rest := by
  obtain ⟨-, -, hdescribes⟩ := describes_of_offer? h
  obtain ⟨members, hmembers⟩ :=
    Text.prefix_dotted_take type.names (type.names.length - keep + 1)
  refine ⟨members ++ type.suffix.print, ?_⟩
  rw [← List.append_assoc, hdescribes.qualified_eq, hmembers]
  cases type
  rfl

/-! ## What is imported -/

/-- The names that a table holds after some requests are those that were offered for them. -/
theorem mem_qualifiedNames_resolveEach {requests : List Request} {name : Text} :
    name ∈ (resolver.resolveEach .empty requests).qualifiedNames ↔
      ∃ type offer, resolver.ShortensDuring .empty requests type offer ∧
        offer.qualified = name := by
  rw [ImportTable.inStep]
  constructor
  · intro ⟨simple, hbinding⟩
    rcases (mem_bindings_resolveEach ..).mp hbinding with hold | ⟨type, offer, hshortens, heq⟩
    · exact absurd hold List.not_mem_nil
    · exact ⟨type, offer, hshortens, (congrArg Prod.snd heq).symm⟩
  · intro ⟨type, offer, hshortens, heq⟩
    refine ⟨offer.simple, (mem_bindings_resolveEach ..).mpr (Or.inr ⟨type, offer, hshortens, ?_⟩)⟩
    rw [← heq]
    rfl

/-- After any requests no excluded name is in the table, and none is imported by a block made from
it, exactly when no reference was shortened whose class is excluded and whose text, which goes on
after that class, is not. -/
theorem names_allowed_iff (resolver : Resolver) (requests : List Request) :
    let table := resolver.resolveEach .empty requests
    ((∀ name ∈ table.qualifiedNames, resolver.excludesName name = false) ↔
      ¬ ∃ type offer rest, resolver.ShortensDuring .empty requests type offer ∧
        type.print = offer.qualified ++ rest ∧ rest ≠ [] ∧
        resolver.excludesName offer.qualified = true ∧
        resolver.excludesName type.print = false) ∧
    ((∀ name ∈ table.qualifiedNames, resolver.excludesName name = false) →
      ∀ (style : ImportStyle) (package : Option Text),
        ∀ name ∈ (style.block table package).emitted, resolver.excludesName name = false) := by
  intro table
  refine ⟨⟨?_, ?_⟩, ?_⟩
  · intro hallowed hreference
    obtain ⟨type, offer, rest, hshortens, -, -, hexcluded, -⟩ := hreference
    have hmem := mem_qualifiedNames_resolveEach.mpr ⟨type, offer, hshortens, rfl⟩
    rw [hallowed _ hmem] at hexcluded
    exact absurd hexcluded (by simp)
  · intro hnone name hname
    obtain ⟨type, offer, hshortens, rfl⟩ := mem_qualifiedNames_resolveEach.mp hname
    rw [← Bool.not_eq_true]
    intro hexcluded
    -- the class was offered by a reference that is not excluded itself
    obtain ⟨scope, keep, hoffer⟩ := hshortens.exists_offer?
    obtain ⟨rest, hrest⟩ := exists_print_of_offer? hoffer
    have hwhole := excludes_of_offer? hoffer
    refine hnone ⟨type, offer, rest, hshortens, hrest, ?_, hexcluded, hwhole⟩
    -- with nothing after the class the whole text would be excluded as well
    intro hnil
    rw [hnil, List.append_nil] at hrest
    rw [hrest, hexcluded] at hwhole
    exact absurd hwhole (by simp)
  · intro hallowed style package name hname
    have hordered := (ImportStyle.mem_emitted.mp hname).1
    exact hallowed name ((table.perm_ordered style.order).mem_iff.mp hordered)

/-- A list of anything is imported although lists are excluded. -/
theorem excluded_list_imported :
    ∃ resolver, create Dialect.java.policy (some "java\\.util\\.List".toList) = .ok resolver ∧
      let table := resolver.resolveEach .empty
        [⟨⟨"Main".toList, none⟩, "java.util.List<?>".toList, 1⟩]
      "java.util.List".toList ∈ table.qualifiedNames ∧
        resolver.excludesName "java.util.List".toList = true := by
  refine ⟨_, rfl, ?_, ?_⟩
  · decide +kernel
  · decide +kernel

end Resolver

end JvmSource
