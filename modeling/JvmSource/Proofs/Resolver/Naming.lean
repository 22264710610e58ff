import Mathlib.Tactic.Common
import JvmSource.Proofs.Resolver.Shortened
import JvmSource.Proofs.TypeRef.RoundTrip

/-!
# What bindings say

Every binding that resolving adds is one of a class: its qualified name is a path with a name in
front, its simple name is the last name of that path, and only the class of the file may be called
like it. Native spellings are paths as well, so this holds of every dialect.
-/

namespace JvmSource

/-- Whether a simple name stands for a class in a file: the qualified name is a path that ends with
it, and a class that is called like the class of the file is that class. -/
structure Scope.Names (scope : Scope) (simple qualified : Text) : Prop where
  exists_path : ∃ front, IsPath front ∧ Identifier.accepts simple = true ∧
    qualified = Text.dotted (front ++ [simple])
  isSelf : simple = scope.className → scope.isSelf qualified = true

/-- Whether all bindings of a table stand for classes. -/
def ImportTable.Sound (table : ImportTable) (scope : Scope) : Prop :=
  ∀ binding ∈ table.bindings, scope.Names binding.1 binding.2

/-- Whether the names of a reference and of all arguments inside it are paths. -/
inductive TypeRef.WellNamed : TypeRef → Prop where
  | mk {names : List Text} {suffix : Suffix} (path : IsPath names)
      (args : ∀ bracket args, suffix = .plain bracket args → ∀ arg ∈ args, WellNamed arg.type) :
      WellNamed (.mk names suffix)

namespace TypeRef.WellNamed

variable {type : TypeRef}

theorem isPath (h : type.WellNamed) : IsPath type.names := by
  cases h
  assumption

theorem of_mem (h : type.WellNamed) {bracket : Bracket} {args : List TypeArg}
    (hsuffix : type.suffix = .plain bracket args) : ∀ arg ∈ args, arg.type.WellNamed := by
  cases h with
  | mk path deeper => exact deeper bracket args hsuffix

/-- Every canonical reference has paths for its names. -/
theorem of_canonical {rows : Nat} (h : type.Canonical rows) : type.WellNamed := by
  induction h with
  | bare path => exact .mk path fun bracket args hargs => absurd hargs (by simp)
  | verbatim path ne_nil isSuffix unread =>
    exact .mk path fun bracket args hargs => absurd hargs (by simp)
  | plain path ne_nil types pieces ih =>
    refine .mk path fun bracket args hargs => ?_
    cases hargs
    exact ih

end TypeRef.WellNamed

/-! ## Native spellings -/

/-- Whether the native spellings of a policy are paths. -/
structure Policy.NativePaths (policy : Policy) : Prop where
  types : ∀ entry ∈ policy.nativeTypes, (pathNames? entry.2).isSome = true
  array : ∀ array, policy.arrayType = some array → (pathNames? array).isSome = true

/-- A text that is accepted as a path splits into the names of one. -/
theorem isPath_split {text : Text} (h : (pathNames? text).isSome = true) :
    IsPath (Text.split '.' text) := by
  obtain ⟨names, hnames⟩ := Option.isSome_iff_exists.mp h
  obtain ⟨hpath, rfl⟩ := pathNames?_eq_some_iff.mp hnames
  rwa [hpath.split_dotted]

/-- The native spellings of every dialect are paths. -/
theorem Dialect.nativePaths (dialect : Dialect) : dialect.policy.NativePaths := by
  cases dialect with
  | java => exact ⟨by simp [policy], by simp [policy]⟩
  | scala => exact ⟨by simp [policy], by simp [policy]⟩
  | kotlin =>
    constructor
    · intro entry hentry
      simp only [policy, List.mem_cons, List.not_mem_nil, or_false] at hentry
      rcases hentry with rfl | rfl <;> rfl
    · intro array harray
      cases harray
      rfl

namespace Policy

variable {policy : Policy} {type : TypeRef}

/-- A path has a native spelling that is a path. -/
theorem isPath_nativeNames (hnative : policy.NativePaths) (h : IsPath type.names) :
    IsPath (policy.nativeNames type) := by
  unfold nativeNames
  split
  · next native hlookup =>
    exact isPath_split (hnative.types _ (ImportTable.mem_of_lookup hlookup))
  · exact h

/-- Array types around a reference have paths for their names, if the reference has. -/
theorem wellNamed_wrapType {array : Text} (harray : (pathNames? array).isSome = true)
    (dimensions : Nat) (h : type.WellNamed) : (wrapType array dimensions type).WellNamed := by
  induction dimensions generalizing type with
  | zero => exact h
  | succ dimensions ih =>
    rw [wrapType]
    apply ih
    refine .mk (isPath_split harray) fun bracket args hargs arg harg => ?_
    cases hargs
    rw [List.mem_singleton.mp harg]
    exact h

/-- Native spelling leaves all names paths. -/
theorem wellNamed_nativeType (hnative : policy.NativePaths) (h : type.WellNamed) :
    (policy.nativeType type).WellNamed := by
  have hbare : (TypeRef.mk (policy.nativeNames type) .empty).WellNamed :=
    .mk (isPath_nativeNames hnative h.isPath) fun bracket args hargs => absurd hargs (by simp)
  rcases policy.nativeType_cases type with heq | ⟨-, heq⟩ | ⟨array, text, harray, -, -, heq⟩
  · rwa [heq]
  · rwa [heq]
  · rw [heq]
    exact wellNamed_wrapType (hnative.array array harray) _ hbare

end Policy

namespace Resolver

variable {resolver : Resolver} {scope : Scope}

/-- Renaming leaves all names paths. -/
theorem wellNamed_rename (hnative : resolver.policy.NativePaths) {type : TypeRef}
    (h : type.WellNamed) : (resolver.rename type).WellNamed := by
  unfold rename
  split
  · exact Policy.wellNamed_nativeType hnative h
  · exact h

/-! ## Bindings -/

/-- What a path offers stands for a class. -/
theorem names_of_offer? {type : TypeRef} {keep : Nat} {offer : Offer} (h : IsPath type.names)
    (hoffer : resolver.offer? scope type keep = some offer) :
    scope.Names offer.simple offer.qualified := by
  obtain ⟨hkeep, hlength, hdescribes⟩ := describes_of_offer? hoffer
  refine ⟨⟨type.names.take (type.names.length - keep), ?_, ?_, ?_⟩, hdescribes.isSelf_of_className⟩
  · exact h.take hdescribes.position_pos
  · exact h.accepts _ (List.mem_of_getElem? hdescribes.simple_eq)
  · rw [hdescribes.qualified_eq, List.take_add_one, hdescribes.simple_eq]
    rfl

/-- What is shortened inside a reference is named as well as the reference is. -/
theorem wellNamed_of_shortens (hnative : resolver.policy.NativePaths) {table : ImportTable}
    {type inner : TypeRef} {keep : Nat} {offer : Offer}
    (h : resolver.Shortens scope table type keep inner offer) (htype : type.WellNamed) :
    inner.WellNamed := by
  induction h with
  | here offered accepted => exact wellNamed_rename hnative htype
  | inside offered accepted suffix shortened ih =>
    apply ih
    have hargs := (wellNamed_rename hnative htype).of_mem suffix
    exact hargs _ (by simp)

/-- Resolving a reference keeps a table sound. -/
theorem sound_shorten (hnative : resolver.policy.NativePaths) {table : ImportTable}
    {type : TypeRef} (h : type.WellNamed) (keep : Nat) (hsound : table.Sound scope) :
    (resolver.shorten scope table type keep).2.Sound scope := by
  intro binding hbinding
  rcases (mem_bindings_shorten ..).mp hbinding with hold | ⟨inner, offer, hshortens, rfl⟩
  · exact hsound binding hold
  · obtain ⟨keep', hoffer⟩ := hshortens.exists_offer?
    exact names_of_offer? (wellNamed_of_shortens hnative hshortens h).isPath hoffer

/-- Resolving a text binds only names that stand for classes. -/
theorem sound_resolve (hnative : resolver.policy.NativePaths) {table : ImportTable} (text : Text)
    (keep : Nat) (hsound : table.Sound scope) :
    (resolver.resolve scope table text keep).2.Sound scope := by
  unfold resolve
  split
  · exact hsound
  · cases hparse : TypeRef.parse? text with
    | none => exact hsound
    | some type =>
      simp only [resolveType_eq]
      have htype := TypeRef.WellNamed.of_canonical (TypeRef.canonical_of_parse? hparse)
      exact sound_shorten hnative htype keep hsound

/-- Resolving texts in a row binds only names that stand for classes. -/
theorem sound_resolveAll (hnative : resolver.policy.NativePaths) {table : ImportTable}
    (keep : Nat) (texts : List Text) (hsound : table.Sound scope) :
    (resolver.resolveAll scope keep texts table).2.Sound scope := by
  induction texts generalizing table with
  | nil => exact hsound
  | cons text texts ih => exact ih (sound_resolve hnative text keep hsound)

end Resolver

end JvmSource
