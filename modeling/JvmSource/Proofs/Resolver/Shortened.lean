import Mathlib.Tactic.Common
import JvmSource.Proofs.Import.Bindings
import JvmSource.Proofs.Resolver.Recursion

/-!
# Which references are shortened

Resolving a reference shortens it, if the table accepts what it offers, and then the arguments
inside it in turn. `Shortens` says which references are shortened on the way and with which table,
and `mem_bindings_shorten` says what that leaves in the table: the bindings that were there, one for
each reference that was shortened, and no others.
-/

namespace JvmSource.Resolver

/-- The binding that an offer asks for. -/
def Offer.binding (offer : Offer) : Text × Text := (offer.simple, offer.qualified)

/-- Whether a reference, in its native spelling and with its offer, is one of those that are
shortened while a reference is resolved: that reference itself, or one inside an argument of it. -/
inductive Shortens (resolver : Resolver) (scope : Scope) :
    ImportTable → TypeRef → (keep : Nat) → TypeRef → Offer → Prop where
  | here {table bound : ImportTable} {type : TypeRef} {keep : Nat} {offer : Offer}
      (offered : resolver.offer? scope (resolver.rename type) keep = some offer)
      (accepted : table.bind? offer.simple offer.qualified = some bound) :
      Shortens resolver scope table type keep (resolver.rename type) offer
  | inside {table bound : ImportTable} {type inner : TypeRef} {keep : Nat} {outer offer : Offer}
      {bracket : Bracket} {before after : List TypeArg} {arg : TypeArg}
      (offered : resolver.offer? scope (resolver.rename type) keep = some outer)
      (accepted : table.bind? outer.simple outer.qualified = some bound)
      (suffix : (resolver.rename type).suffix = .plain bracket (before ++ arg :: after))
      (shortened : Shortens resolver scope (resolver.shortenArgs scope bound before).2 arg.type 1
        inner offer) :
      Shortens resolver scope table type keep inner offer

/-- Whether a reference is shortened while arguments are resolved, from left to right. -/
def ShortensIn (resolver : Resolver) (scope : Scope) (table : ImportTable) (args : List TypeArg)
    (inner : TypeRef) (offer : Offer) : Prop :=
  ∃ before arg after, args = before ++ arg :: after ∧
    resolver.Shortens scope (resolver.shortenArgs scope table before).2 arg.type 1 inner offer

variable {resolver : Resolver} {scope : Scope}

/-- What is shortened has offered a binding of its own. -/
theorem Shortens.exists_offer? {table : ImportTable} {type inner : TypeRef} {keep : Nat}
    {offer : Offer} (h : resolver.Shortens scope table type keep inner offer) :
    ∃ keep, resolver.offer? scope inner keep = some offer := by
  induction h with
  | here offered accepted => exact ⟨_, offered⟩
  | inside offered accepted suffix shortened ih => exact ih

/-! ## Arguments -/

theorem weight_lt_of_mem {args : List TypeArg} {arg : TypeArg} (h : arg ∈ args) :
    weight arg.type < argsWeight args := by
  induction args with
  | nil => exact absurd h List.not_mem_nil
  | cons first rest ih =>
    obtain ⟨type, nullable⟩ := first
    rw [argsWeight]
    rcases List.mem_cons.mp h with rfl | h
    · show weight type < _
      omega
    · have := ih h
      omega

theorem not_shortensIn_nil (table : ImportTable) (inner : TypeRef) (offer : Offer) :
    ¬ resolver.ShortensIn scope table [] inner offer := by
  rintro ⟨before, arg, after, heq, -⟩
  exact absurd heq (by simp)

/-- The first argument is shortened before the others, which start from its table. -/
theorem shortenArgs_cons_snd (table : ImportTable) (arg : TypeArg) (args : List TypeArg) :
    (resolver.shortenArgs scope table (arg :: args)).2 =
      (resolver.shortenArgs scope (resolver.shorten scope table arg.type 1).2 args).2 := by
  obtain ⟨type, nullable⟩ := arg
  rw [shortenArgs]
  rfl

/-- The first argument is resolved with the table that is there, the others with the one after
it. -/
theorem shortensIn_cons_iff {table : ImportTable} {arg : TypeArg} {args : List TypeArg}
    {inner : TypeRef} {offer : Offer} :
    resolver.ShortensIn scope table (arg :: args) inner offer ↔
      resolver.Shortens scope table arg.type 1 inner offer ∨
        resolver.ShortensIn scope (resolver.shorten scope table arg.type 1).2 args inner offer := by
  constructor
  · -- the argument in question is the first one, or one of the others
    rintro ⟨before, found, after, heq, h⟩
    cases before with
    | nil =>
      cases heq
      left
      rwa [shortenArgs] at h
    | cons first before =>
      cases heq
      right
      refine ⟨before, found, after, rfl, ?_⟩
      rwa [shortenArgs_cons_snd] at h
  · rintro (h | ⟨before, found, after, rfl, h⟩)
    · refine ⟨[], arg, args, rfl, ?_⟩
      rwa [shortenArgs]
    · refine ⟨arg :: before, found, after, rfl, ?_⟩
      rwa [shortenArgs_cons_snd]

/-- What arguments leave in the table, given what each of them does. -/
theorem mem_bindings_shortenArgs (args : List TypeArg) (binding : Text × Text)
    (h : ∀ arg ∈ args, ∀ table : ImportTable,
      binding ∈ (resolver.shorten scope table arg.type 1).2.bindings ↔
        binding ∈ table.bindings ∨
          ∃ inner offer, resolver.Shortens scope table arg.type 1 inner offer ∧
            binding = offer.binding)
    (table : ImportTable) :
    binding ∈ (resolver.shortenArgs scope table args).2.bindings ↔
      binding ∈ table.bindings ∨
        ∃ inner offer, resolver.ShortensIn scope table args inner offer ∧
          binding = offer.binding := by
  induction args generalizing table with
  | nil =>
    rw [shortenArgs]
    simp [not_shortensIn_nil]
  | cons arg args ih =>
    have hfirst := h arg (List.mem_cons_self ..) table
    have hrest := ih (fun arg harg => h arg (List.mem_cons_of_mem _ harg))
      (resolver.shorten scope table arg.type 1).2
    rw [shortenArgs_cons_snd, hrest, hfirst, or_assoc]
    simp only [shortensIn_cons_iff, or_and_right, exists_or]

/-! ## References -/

/-- Nothing is shortened in a reference that is written in full. -/
theorem not_shortens_of_refused {table : ImportTable} {type : TypeRef} {keep : Nat}
    (h : resolver.bindClass? scope table (resolver.rename type) keep = none) (inner : TypeRef)
    (offer : Offer) : ¬ resolver.Shortens scope table type keep inner offer := by
  have hnone : ∀ {offer : Offer} {bound : ImportTable},
      resolver.offer? scope (resolver.rename type) keep = some offer →
      table.bind? offer.simple offer.qualified ≠ some bound := by
    intro offer bound hoffer hbind
    rw [bindClass?_eq, hoffer, Option.bind_some, hbind] at h
    exact absurd h (by simp)
  intro hshortens
  cases hshortens with
  | here offered accepted => exact hnone offered accepted
  | inside offered accepted suffix shortened => exact hnone offered accepted

/-- In a reference whose offer is accepted, it is shortened itself, and what its arguments
shorten. -/
theorem shortens_iff {table bound : ImportTable} {type inner : TypeRef} {keep : Nat}
    {outer offer : Offer} (hoffer : resolver.offer? scope (resolver.rename type) keep = some outer)
    (hbind : table.bind? outer.simple outer.qualified = some bound) :
    resolver.Shortens scope table type keep inner offer ↔
      (inner = resolver.rename type ∧ offer = outer) ∨
        ∃ bracket args, (resolver.rename type).suffix = .plain bracket args ∧
          resolver.ShortensIn scope bound args inner offer := by
  constructor
  · intro h
    cases h with
    | here offered accepted =>
      rw [hoffer] at offered
      exact Or.inl ⟨rfl, (Option.some_inj.mp offered).symm⟩
    | inside offered accepted suffix shortened =>
      rw [hoffer] at offered
      cases offered
      rw [hbind] at accepted
      cases accepted
      exact Or.inr ⟨_, _, suffix, _, _, _, rfl, shortened⟩
  · rintro (⟨rfl, rfl⟩ | ⟨bracket, args, hsuffix, before, arg, after, rfl, h⟩)
    · exact .here hoffer hbind
    · exact .inside hoffer hbind hsuffix h

/-- A table that a reference was resolved with holds what it held before and what was shortened. -/
theorem mem_bindings_shorten (resolver : Resolver) (scope : Scope) (table : ImportTable)
    (type : TypeRef) (keep : Nat) (binding : Text × Text) :
    binding ∈ (resolver.shorten scope table type keep).2.bindings ↔
      binding ∈ table.bindings ∨
        ∃ inner offer, resolver.Shortens scope table type keep inner offer ∧
          binding = offer.binding := by
  -- the recursion goes down in weight, as renaming may give arguments that the text does not have
  rw [shorten]
  cases hclass : resolver.bindClass? scope table (resolver.rename type) keep with
  | none => simp [not_shortens_of_refused hclass]
  | some found =>
    obtain ⟨omitted, bound⟩ := found
    rw [bindClass?_eq, Option.bind_eq_some_iff] at hclass
    obtain ⟨outer, hoffer, hclass⟩ := hclass
    obtain ⟨bound', hbind, heq⟩ := Option.map_eq_some_iff.mp hclass
    cases heq
    have hbound : binding ∈ bound.bindings ↔ binding = outer.binding ∨ binding ∈ table.bindings :=
      ImportTable.mem_bindings_bind?_iff hbind
    simp only [shortens_iff hoffer hbind]
    cases hsuffix : (resolver.rename type).suffix with
    | empty =>
      rw [shortenSuffix, hbound]
      simp [or_comm]
    | verbatim text =>
      rw [shortenSuffix, hbound]
      simp [or_comm]
    | plain bracket args =>
      rw [shortenSuffix]
      have hargs := mem_bindings_shortenArgs args binding
        (fun arg harg table => mem_bindings_shorten resolver scope table arg.type 1 binding) bound
      show binding ∈ (resolver.shortenArgs scope bound args).2.bindings ↔ _
      rw [hargs, hbound]
      constructor
      · rintro ((hself | hold) | ⟨inner, offer, hin, heq⟩)
        · exact Or.inr ⟨_, outer, Or.inl ⟨rfl, rfl⟩, hself⟩
        · exact Or.inl hold
        · exact Or.inr ⟨inner, offer, Or.inr ⟨bracket, args, rfl, hin⟩, heq⟩
      · rintro (hold | ⟨inner, offer, ⟨-, rfl⟩ | ⟨_, _, hplain, hin⟩, heq⟩)
        · exact Or.inl (Or.inr hold)
        · exact Or.inl (Or.inl heq)
        · cases hplain
          exact Or.inr ⟨inner, offer, hin, heq⟩
termination_by weight type
decreasing_by
  have hlt := weight_lt_of_mem harg
  have hrename := weight_rename_le resolver type
  rw [weight_eq, hsuffix, suffixWeight] at hrename
  omega

end JvmSource.Resolver
