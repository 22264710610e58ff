import JvmSource.Proofs.Import.Bindings
import JvmSource.Proofs.Resolver.Offer
import JvmSource.Proofs.Resolver.Recursion

/-!
# References stay as they were written

Resolving a reference extends the table, and what it decided is decided again in every table that
extends the result: an accepted binding is found there, a refused name still stands for something
else. So a reference that is resolved once more, after any other bindings and references, gives the
same text and leaves the table alone.
-/

namespace JvmSource.Resolver

/-! ## Resolving extends the table -/

/-- Binding the class of a reference keeps all earlier bindings. -/
theorem extends_of_bindClass? {resolver : Resolver} {scope : Scope} {table bound : ImportTable}
    {type : TypeRef} {keep omitted : Nat}
    (h : resolver.bindClass? scope table type keep = some (omitted, bound)) :
    bound.Extends table := by
  rw [bindClass?_eq, Option.bind_eq_some_iff] at h
  obtain ⟨offer, -, hbind⟩ := h
  rw [Option.map_eq_some_iff] at hbind
  obtain ⟨bound', hbind, heq⟩ := hbind
  cases heq
  exact ImportTable.extends_of_bind? hbind

mutual

/-- Shortening a reference keeps all earlier bindings. -/
theorem extends_shorten (resolver : Resolver) (scope : Scope) (table : ImportTable)
    (type : TypeRef) (keep : Nat) :
    (resolver.shorten scope table type keep).2.Extends table := by
  rw [shorten]
  cases hbind : resolver.bindClass? scope table (resolver.rename type) keep with
  | none => exact ImportTable.Extends.refl table
  | some found =>
    have hsuffix := extends_shortenSuffix resolver scope found.2 (resolver.rename type).suffix
    exact hsuffix.trans (extends_of_bindClass? hbind)
termination_by weight type
decreasing_by
  have := weight_rename_le resolver type
  rw [weight_eq] at this
  omega

theorem extends_shortenSuffix (resolver : Resolver) (scope : Scope) (table : ImportTable)
    (suffix : Suffix) : (resolver.shortenSuffix scope table suffix).2.Extends table := by
  cases suffix with
  | plain bracket args =>
    rw [shortenSuffix]
    exact extends_shortenArgs resolver scope table args
  | empty => rw [shortenSuffix]; exact ImportTable.Extends.refl table
  | verbatim text => rw [shortenSuffix]; exact ImportTable.Extends.refl table
termination_by suffixWeight suffix
decreasing_by
  simp only [suffixWeight]
  omega

/-- Shortening arguments keeps all earlier bindings. -/
theorem extends_shortenArgs (resolver : Resolver) (scope : Scope) (table : ImportTable)
    (args : List TypeArg) : (resolver.shortenArgs scope table args).2.Extends table := by
  cases args with
  | nil => rw [shortenArgs]; exact ImportTable.Extends.refl table
  | cons arg args =>
    obtain ⟨type, nullable⟩ := arg
    rw [shortenArgs]
    have htype := extends_shorten resolver scope table type 1
    have hargs := extends_shortenArgs resolver scope (resolver.shorten scope table type 1).2 args
    exact hargs.trans htype
termination_by argsWeight args
decreasing_by
  all_goals simp only [argsWeight]
  all_goals omega

end

/-! ## Decisions are made again -/

/-- What binding a class decided, it decides again wherever the outcome is still known. -/
theorem bindClass?_of_extends_bound {resolver : Resolver} {scope : Scope}
    {table bound later : ImportTable} {type : TypeRef} {keep omitted : Nat}
    (h : resolver.bindClass? scope table type keep = some (omitted, bound))
    (hlater : later.Extends bound) :
    resolver.bindClass? scope later type keep = some (omitted, later) := by
  rw [bindClass?_eq, Option.bind_eq_some_iff] at h
  obtain ⟨offer, hoffer, hbind⟩ := h
  rw [Option.map_eq_some_iff] at hbind
  obtain ⟨bound', hbind, heq⟩ := hbind
  cases heq
  rw [bindClass?_eq, hoffer, Option.bind_some,
    ImportTable.bind?_of_extends_bound hbind hlater, Option.map_some]

/-- A reference that is refused is refused by every later table too. -/
theorem bindClass?_of_extends_refused {resolver : Resolver} {scope : Scope}
    {table later : ImportTable} {type : TypeRef} {keep : Nat}
    (h : resolver.bindClass? scope table type keep = none) (hlater : later.Extends table) :
    resolver.bindClass? scope later type keep = none := by
  rw [bindClass?_eq] at h ⊢
  cases hoffer : resolver.offer? scope type keep with
  | none => rfl
  | some offer =>
    rw [hoffer, Option.bind_some, Option.map_eq_none_iff] at h
    rw [Option.bind_some, Option.map_eq_none_iff]
    exact ImportTable.bind?_of_extends_refused h hlater

mutual

/-- A reference is shortened as before in every table that extends the one it left behind. -/
theorem shorten_of_extends (resolver : Resolver) (scope : Scope) (table : ImportTable)
    (type : TypeRef) (keep : Nat) {later : ImportTable}
    (hlater : later.Extends (resolver.shorten scope table type keep).2) :
    resolver.shorten scope later type keep =
      ((resolver.shorten scope table type keep).1, later) := by
  rw [shorten] at hlater
  rw [shorten, shorten.eq_1 resolver scope table]
  cases hbind : resolver.bindClass? scope table (resolver.rename type) keep with
  | none =>
    rw [hbind] at hlater
    rw [bindClass?_of_extends_refused hbind hlater]
  | some found =>
    obtain ⟨omitted, bound⟩ := found
    simp only [hbind] at hlater
    have hbound := hlater.trans (extends_shortenSuffix resolver scope bound _)
    rw [bindClass?_of_extends_bound hbind hbound]
    simp only [shortenSuffix_of_extends resolver scope bound _ hlater]
termination_by weight type
decreasing_by
  have := weight_rename_le resolver type
  rw [weight_eq] at this
  omega

/-- With a later table, a suffix is shortened in the same way, and nothing new is bound. -/
theorem shortenSuffix_of_extends (resolver : Resolver) (scope : Scope) (table : ImportTable)
    {later : ImportTable} :
    (suffix : Suffix) → later.Extends (resolver.shortenSuffix scope table suffix).2 →
    resolver.shortenSuffix scope later suffix =
      ((resolver.shortenSuffix scope table suffix).1, later)
  | .plain bracket args, hlater => by
    rw [shortenSuffix] at hlater
    rw [shortenSuffix, shortenSuffix]
    simp only [shortenArgs_of_extends resolver scope table args hlater]
  | .empty, _ => by rw [shortenSuffix, shortenSuffix]
  | .verbatim text, _ => by rw [shortenSuffix, shortenSuffix]
termination_by suffix => suffixWeight suffix
decreasing_by
  simp only [suffixWeight]
  omega

/-- With a later table, arguments are shortened in the same way, and nothing new is bound. -/
theorem shortenArgs_of_extends (resolver : Resolver) (scope : Scope) (table : ImportTable)
    {later : ImportTable} :
    (args : List TypeArg) → later.Extends (resolver.shortenArgs scope table args).2 →
    resolver.shortenArgs scope later args =
      ((resolver.shortenArgs scope table args).1, later)
  | [], _ => by rw [shortenArgs, shortenArgs]
  | .mk type nullable :: args, hlater => by
    rw [shortenArgs] at hlater
    rw [shortenArgs, shortenArgs.eq_2 resolver scope table]
    have hmiddle := hlater.trans (extends_shortenArgs resolver scope _ args)
    simp only [shorten_of_extends resolver scope table type 1 hmiddle,
      shortenArgs_of_extends resolver scope _ args hlater]
termination_by args => argsWeight args
decreasing_by
  all_goals simp only [argsWeight]
  all_goals omega

end

/-! ## Texts -/

/-- Resolving a text keeps all earlier bindings. -/
theorem extends_resolve (resolver : Resolver) (scope : Scope) (table : ImportTable)
    (text : Text) (keep : Nat) : (resolver.resolve scope table text keep).2.Extends table := by
  unfold resolve
  split
  · exact ImportTable.Extends.refl table
  · cases TypeRef.parse? text with
    | none => exact ImportTable.Extends.refl table
    | some type =>
      simp only [resolveType_eq]
      exact extends_shorten resolver scope table type keep

/-- With a later table, a text is resolved in the same way, and nothing new is bound. -/
theorem resolve_of_extends (resolver : Resolver) (scope : Scope) (table : ImportTable)
    (text : Text) (keep : Nat) {later : ImportTable}
    (hlater : later.Extends (resolver.resolve scope table text keep).2) :
    resolver.resolve scope later text keep =
      ((resolver.resolve scope table text keep).1, later) := by
  unfold resolve at hlater ⊢
  split
  · rfl
  · next hdot =>
    rw [if_neg hdot] at hlater
    cases hparse : TypeRef.parse? text with
    | none => rfl
    | some type =>
      simp only [hparse, resolveType_eq] at hlater ⊢
      rw [shorten_of_extends resolver scope table type keep hlater]

end Resolver

/-! ## Runs -/

/-- Something that may happen to an import table. -/
inductive TableStep where
  /-- A simple name is bound, unless it stands for something else. -/
  | bind (simple qualified : Text)
  /-- A reference is resolved. -/
  | resolve (resolver : Resolver) (scope : Scope) (text : Text) (keep : Nat)

namespace ImportTable

/-- The table after a step. -/
def step (table : ImportTable) : TableStep → ImportTable
  | .bind simple qualified => (table.bind? simple qualified).getD table
  | .resolve resolver scope text keep => (resolver.resolve scope table text keep).2

/-- The table after some steps, one after the other. -/
def run (table : ImportTable) (steps : List TableStep) : ImportTable := steps.foldl step table

theorem extends_step (table : ImportTable) (step : TableStep) :
    (table.step step).Extends table := by
  cases step with
  | bind simple qualified =>
    rw [ImportTable.step]
    cases hbind : table.bind? simple qualified with
    | none => exact Extends.refl table
    | some bound => exact extends_of_bind? hbind
  | resolve resolver scope text keep => exact resolver.extends_resolve scope table text keep

/-- A run keeps all earlier bindings. -/
theorem extends_run (table : ImportTable) (steps : List TableStep) :
    (table.run steps).Extends table := by
  induction steps generalizing table with
  | nil => exact Extends.refl table
  | cons step steps ih => exact (ih (table.step step)).trans (extends_step table step)

end ImportTable

/-- A reference that has been written is written the same way at any later time, and the table stays
as it is then. -/
theorem Resolver.resolve_after_run (resolver : Resolver) (scope : Scope) (table : ImportTable)
    (text : Text) (keep : Nat) (steps : List TableStep) :
    resolver.resolve scope ((resolver.resolve scope table text keep).2.run steps) text keep =
      ((resolver.resolve scope table text keep).1,
        (resolver.resolve scope table text keep).2.run steps) :=
  resolver.resolve_of_extends scope table text keep (ImportTable.extends_run _ steps)

end JvmSource
