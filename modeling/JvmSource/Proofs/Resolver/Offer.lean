import Mathlib.Tactic.Common
import JvmSource.Resolver.Basic

/-!
# What a reference offers to the import table

Whether a reference is shortened is decided in two steps: the reference offers a binding, and the
table accepts or refuses it. Only the second step looks at the table, so an offer is the same
whenever the reference is resolved. `bindClass?_eq` splits the decision, `Offer.Describes` says what
an offer is made of.
-/

namespace JvmSource.Resolver

/-- A binding that a reference asks for, and the number of names it leaves out if it gets it. -/
structure Offer where
  simple : Text
  qualified : Text
  omitted : Nat

/-- The binding that a reference asks for, of which `keep` names are to be written. -/
def offer? (resolver : Resolver) (scope : Scope) (type : TypeRef) (keep : Nat) : Option Offer :=
  if resolver.excludes type || keep == 0 || type.names.length ≤ keep then none
  else
    let position := type.names.length - keep
    let simple := type.names[position]?.getD []
    let qualified := Text.dotted (type.names.take (position + 1))
    let self := scope.isSelf qualified
    if simple == scope.className && !self then none
    else
      some ⟨simple, qualified,
        if self && position + 1 < type.names.length then position + 1 else position⟩

/-- A class is bound when the reference offers a binding and the table accepts it. -/
theorem bindClass?_eq (resolver : Resolver) (scope : Scope) (table : ImportTable)
    (type : TypeRef) (keep : Nat) :
    resolver.bindClass? scope table type keep =
      (resolver.offer? scope type keep).bind fun offer =>
        (table.bind? offer.simple offer.qualified).map (offer.omitted, ·) := by
  unfold bindClass? offer?
  split
  · rfl
  · simp only
    split
    · rfl
    · rfl

/-- What an offer is made of: the class is the name at some position other than the first, its
qualified name is the path up to there, and it is written from there on or from the name after it.
A class that is called like the class of the file is that class. -/
structure Offer.Describes (offer : Offer) (scope : Scope) (names : List Text) (position : Nat) :
    Prop where
  position_pos : 0 < position
  simple_eq : names[position]? = some offer.simple
  qualified_eq : offer.qualified = Text.dotted (names.take (position + 1))
  position_le : position ≤ offer.omitted
  omitted_lt : offer.omitted < names.length
  isSelf_of_className : offer.simple = scope.className → scope.isSelf offer.qualified = true

theorem describes_of_offer? {resolver : Resolver} {scope : Scope} {type : TypeRef} {keep : Nat}
    {offer : Offer} (h : resolver.offer? scope type keep = some offer) :
    0 < keep ∧ keep < type.names.length ∧
      offer.Describes scope type.names (type.names.length - keep) := by
  unfold offer? at h
  split at h
  · exact absurd h (by simp)
  · next hcond =>
    simp only [Bool.or_eq_true, beq_iff_eq, decide_eq_true_eq, not_or, Nat.not_le] at hcond
    obtain ⟨⟨-, hkeep⟩, hlength⟩ := hcond
    simp only at h
    split at h
    · exact absurd h (by simp)
    · next hself =>
      have hposition : type.names.length - keep < type.names.length := by omega
      cases h
      refine ⟨by omega, hlength, ?_⟩
      -- one goal for each thing that an offer tells about the names
      constructor
      · omega
      · simp [List.getElem?_eq_getElem hposition]
      · rfl
      · simp only
        split <;> omega
      · simp only
        split
        · next hnext =>
          simp only [Bool.and_eq_true, decide_eq_true_eq] at hnext
          exact hnext.2
        · exact hposition
      · intro hname
        simp only [Bool.and_eq_true, beq_iff_eq, Bool.not_eq_true', not_and,
          Bool.not_eq_false] at hself
        exact hself hname

/-- What a path offers of which the names from some class on are to be written: that class, unless
it is called like the class of the file without being it. The class of the file is left out before
its members. -/
theorem offer?_of_split {resolver : Resolver} {scope : Scope} {type : TypeRef}
    {front members : List Text} {simple : Text} (hexcludes : resolver.excludes type = false)
    (hnames : type.names = front ++ simple :: members) (hfront : front ≠ []) :
    resolver.offer? scope type (members.length + 1) =
      if simple = scope.className ∧ scope.isSelf (Text.dotted (front ++ [simple])) = false then none
      else
        some ⟨simple, Text.dotted (front ++ [simple]),
          if scope.isSelf (Text.dotted (front ++ [simple])) = true ∧ members ≠ [] then
            front.length + 1
          else front.length⟩ := by
  have hlength : type.names.length = front.length + (members.length + 1) := by
    rw [hnames, List.length_append, List.length_cons]
  have hpos := List.length_pos_iff.mpr hfront
  -- the class stands right behind the names in front of it
  have hposition : type.names.length - (members.length + 1) = front.length := by omega
  have hsimple : type.names[front.length]?.getD [] = simple := by simp [hnames]
  have hqualified : type.names.take (front.length + 1) = front ++ [simple] := by
    rw [hnames, List.take_length_add_append]
    rfl
  have hlong : ¬ type.names.length ≤ members.length + 1 := by omega
  have hmembers : front.length + 1 < type.names.length ↔ members ≠ [] := by
    rw [← List.length_pos_iff]
    omega
  unfold offer?
  rw [if_neg (by simp [hexcludes, hlong])]
  simp only [hposition, hsimple, hqualified, hmembers, Bool.and_eq_true, beq_iff_eq,
    Bool.not_eq_true', decide_eq_true_eq]

end JvmSource.Resolver
