import Mathlib.Tactic.Common
import JvmSource.Proofs.Resolver.Naming
import JvmSource.Proofs.Resolver.Stability

/-!
# Resolving one reference after the other

A file asks for many references, and each is resolved with the table that the ones before it left
behind. What is in the table in the end was there in the beginning or belongs to a reference that
was shortened on the way, and nothing that was bound is lost.
-/

namespace JvmSource

/-- A reference that a file asks for, of which `keep` names are to be written. -/
structure Request where
  scope : Scope
  text : Text
  keep : Nat

namespace Resolver

/-- What a request does to a table. -/
def step (resolver : Resolver) (request : Request) : TableStep :=
  .resolve resolver request.scope request.text request.keep

/-- The table after some requests, one after the other. -/
def resolveEach (resolver : Resolver) (table : ImportTable) (requests : List Request) :
    ImportTable :=
  table.run (requests.map resolver.step)

/-- Whether a reference is shortened while a request is answered. -/
def ShortensAt (resolver : Resolver) (table : ImportTable) (request : Request) (inner : TypeRef)
    (offer : Offer) : Prop :=
  ∃ type, '.' ∈ request.text ∧ TypeRef.parse? request.text = some type ∧
    resolver.Shortens request.scope table type request.keep inner offer

/-- Whether a reference is shortened while requests are answered, one after the other. -/
def ShortensDuring (resolver : Resolver) (table : ImportTable) (requests : List Request)
    (inner : TypeRef) (offer : Offer) : Prop :=
  ∃ before request after, requests = before ++ request :: after ∧
    resolver.ShortensAt (resolver.resolveEach table before) request inner offer

variable {resolver : Resolver} {table : ImportTable}

theorem ShortensDuring.exists_offer? {requests : List Request} {inner : TypeRef} {offer : Offer}
    (h : resolver.ShortensDuring table requests inner offer) :
    ∃ scope keep, resolver.offer? scope inner keep = some offer := by
  obtain ⟨before, request, after, -, type, -, -, hshortens⟩ := h
  exact ⟨request.scope, hshortens.exists_offer?⟩

/-- Where native spellings are paths, whatever is shortened stands for a class. -/
theorem ShortensDuring.names (hnative : resolver.policy.NativePaths) {requests : List Request}
    {inner : TypeRef} {offer : Offer} (h : resolver.ShortensDuring table requests inner offer) :
    ∃ scope : Scope, scope.Names offer.simple offer.qualified := by
  obtain ⟨before, request, after, -, type, -, hparse, hshortens⟩ := h
  obtain ⟨keep, hoffer⟩ := hshortens.exists_offer?
  have htype := TypeRef.WellNamed.of_canonical (TypeRef.canonical_of_parse? hparse)
  have hinner := wellNamed_of_shortens hnative hshortens htype
  exact ⟨request.scope, names_of_offer? hinner.isPath hoffer⟩

theorem resolveEach_cons (resolver : Resolver) (table : ImportTable) (request : Request)
    (requests : List Request) :
    resolver.resolveEach table (request :: requests) =
      resolver.resolveEach (table.step (resolver.step request)) requests := rfl

/-- Requests are resolved through the first and then the second part. -/
theorem resolveEach_append (resolver : Resolver) (table : ImportTable)
    (first second : List Request) :
    resolver.resolveEach table (first ++ second) =
      resolver.resolveEach (resolver.resolveEach table first) second := by
  rw [resolveEach, List.map_append, ImportTable.run, List.foldl_append]
  rfl

/-- Resolving requests keeps all earlier bindings. -/
theorem extends_resolveEach (resolver : Resolver) (table : ImportTable)
    (requests : List Request) : (resolver.resolveEach table requests).Extends table :=
  ImportTable.extends_run table (requests.map resolver.step)

/-! ## What is in the table afterwards -/

/-- Resolving a request adds the bindings of what it shortens, and no others. -/
theorem mem_bindings_step (resolver : Resolver) (table : ImportTable) (request : Request)
    (binding : Text × Text) :
    binding ∈ (table.step (resolver.step request)).bindings ↔
      binding ∈ table.bindings ∨
        ∃ inner offer, resolver.ShortensAt table request inner offer ∧
          binding = offer.binding := by
  show binding ∈ (resolver.resolve request.scope table request.text request.keep).2.bindings ↔ _
  unfold ShortensAt resolve
  by_cases hdot : '.' ∈ request.text
  · cases hparse : TypeRef.parse? request.text with
    | none => simp [hdot]
    | some type =>
      have hshorten := mem_bindings_shorten resolver request.scope table type request.keep binding
      simp only [List.contains_eq_mem, hdot, resolveType_eq]
      simpa using hshorten
  · simp [hdot]

theorem not_shortensDuring_nil (inner : TypeRef) (offer : Offer) :
    ¬ resolver.ShortensDuring table [] inner offer := by
  rintro ⟨before, request, after, heq, -⟩
  exact absurd heq (by simp)

/-- The first request is answered with the table that is there, the others with the one after it. -/
theorem shortensDuring_cons_iff {request : Request} {requests : List Request} {inner : TypeRef}
    {offer : Offer} :
    resolver.ShortensDuring table (request :: requests) inner offer ↔
      resolver.ShortensAt table request inner offer ∨
        resolver.ShortensDuring (table.step (resolver.step request)) requests inner offer := by
  constructor
  · rintro ⟨before, found, after, heq, h⟩
    cases before with
    | nil =>
      cases heq
      exact Or.inl h
    | cons first before =>
      cases heq
      exact Or.inr ⟨before, found, after, rfl, h⟩
  · rintro (h | ⟨before, found, after, rfl, h⟩)
    · exact ⟨[], request, requests, rfl, h⟩
    · exact ⟨request :: before, found, after, rfl, h⟩

/-- A table holds what it held before some requests and what was shortened for them. -/
theorem mem_bindings_resolveEach (resolver : Resolver) (table : ImportTable)
    (requests : List Request) (binding : Text × Text) :
    binding ∈ (resolver.resolveEach table requests).bindings ↔
      binding ∈ table.bindings ∨
        ∃ inner offer, resolver.ShortensDuring table requests inner offer ∧
          binding = offer.binding := by
  induction requests generalizing table with
  | nil =>
    show binding ∈ table.bindings ↔ _
    simp [not_shortensDuring_nil]
  | cons request requests ih =>
    rw [resolveEach_cons, ih, mem_bindings_step, or_assoc]
    simp only [shortensDuring_cons_iff, or_and_right, exists_or]

end Resolver

end JvmSource
