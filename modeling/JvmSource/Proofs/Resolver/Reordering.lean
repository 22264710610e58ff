import Mathlib.Tactic.Common
import JvmSource.Import.Block
import JvmSource.Proofs.Resolver.Requests

/-!
# The order of references

A reference that is resolved early may take a simple name that a later one asks for, so what is
written depends on the order of references, in general. It does not as long as offers that ask for
the same simple name ask for the same type. Then every table on the way accepts and refuses the same
of these offers as the table at the start (`DecidesLike`), so each reference is written as if it
were the first one, and the table in the end holds what each of them would add to the table at the
start.
-/

namespace JvmSource

/-! ## What references offer -/

namespace Resolver

/-- Whether a binding is offered while a reference is resolved, by the reference or by one at any
level of its arguments, in their native spellings. It does not matter whether the table accepts it,
or any other; but what stands inside a reference without an offer is never resolved. -/
inductive Offers (resolver : Resolver) (scope : Scope) :
    TypeRef → (keep : Nat) → Offer → Prop where
  | here {type : TypeRef} {keep : Nat} {offer : Offer}
      (offered : resolver.offer? scope (resolver.rename type) keep = some offer) :
      Offers resolver scope type keep offer
  | inside {type : TypeRef} {keep : Nat} {outer offer : Offer} {bracket : Bracket}
      {args : List TypeArg} {arg : TypeArg}
      (offered : resolver.offer? scope (resolver.rename type) keep = some outer)
      (suffix : (resolver.rename type).suffix = .plain bracket args) (member : arg ∈ args)
      (offers : Offers resolver scope arg.type 1 offer) :
      Offers resolver scope type keep offer

/-- Whether a binding is offered while a request is answered. -/
def OffersAt (resolver : Resolver) (request : Request) (offer : Offer) : Prop :=
  ∃ type, '.' ∈ request.text ∧ TypeRef.parse? request.text = some type ∧
    resolver.Offers request.scope type request.keep offer

/-- Whether offers that ask for the same simple name ask for the same type. -/
def Consistent (offers : Offer → Prop) : Prop :=
  ∀ first second, offers first → offers second → first.simple = second.simple →
    first.qualified = second.qualified

variable {resolver : Resolver} {scope : Scope} {table : ImportTable}

/-- A reference that offers a binding offers those inside its arguments as well. -/
theorem offers_iff {type : TypeRef} {keep : Nat} {offer : Offer} :
    resolver.Offers scope type keep offer ↔
      ∃ outer, resolver.offer? scope (resolver.rename type) keep = some outer ∧
        (offer = outer ∨ ∃ bracket args, (resolver.rename type).suffix = .plain bracket args ∧
          ∃ arg ∈ args, resolver.Offers scope arg.type 1 offer) := by
  constructor
  · intro h
    cases h with
    | here offered => exact ⟨offer, offered, Or.inl rfl⟩
    | inside offered suffix member offers =>
      exact ⟨_, offered, Or.inr ⟨_, _, suffix, _, member, offers⟩⟩
  · rintro ⟨outer, hoffered, rfl | ⟨bracket, args, hsuffix, arg, harg, hoffers⟩⟩
    · exact .here hoffered
    · exact .inside hoffered hsuffix harg hoffers

/-- What holds of the offer of a reference and of those inside its arguments holds of all. -/
theorem forall_offers {holds : Offer → Prop} {type : TypeRef} {keep : Nat} (outer : Offer)
    (hoffered : resolver.offer? scope (resolver.rename type) keep = some outer)
    (houter : holds outer)
    (hargs : ∀ bracket args, (resolver.rename type).suffix = .plain bracket args →
      ∀ arg ∈ args, ∀ offer, resolver.Offers scope arg.type 1 offer → holds offer)
    (offer : Offer) (h : resolver.Offers scope type keep offer) : holds offer := by
  obtain ⟨found, hfound, rfl | ⟨bracket, args, hsuffix, arg, harg, hinner⟩⟩ := offers_iff.mp h
  · rw [hoffered] at hfound
    rwa [← Option.some_inj.mp hfound]
  · exact hargs bracket args hsuffix arg harg offer hinner

/-- What is shortened has been offered. -/
theorem Shortens.offers {type inner : TypeRef} {keep : Nat} {offer : Offer}
    (h : resolver.Shortens scope table type keep inner offer) :
    resolver.Offers scope type keep offer := by
  induction h with
  | here offered accepted => exact .here offered
  | inside offered accepted suffix shortened ih => exact .inside offered suffix (by simp) ih

/-- What is shortened at a request has been offered at it. -/
theorem ShortensAt.offersAt {request : Request} {inner : TypeRef} {offer : Offer}
    (h : resolver.ShortensAt table request inner offer) : resolver.OffersAt request offer := by
  obtain ⟨type, hdot, hparse, hshortens⟩ := h
  exact ⟨type, hdot, hparse, hshortens.offers⟩

end Resolver

/-! ## Tables that decide alike -/

namespace ImportTable

open Resolver (Offer Consistent)

/-- Whether two tables accept and refuse the same of some offers. -/
def DecidesLike (table other : ImportTable) (offers : Offer → Prop) : Prop :=
  ∀ offer, offers offer →
    table.canBind offer.simple offer.qualified = other.canBind offer.simple offer.qualified

variable {table other later : ImportTable} {offers : Offer → Prop}

theorem DecidesLike.refl (table : ImportTable) (offers : Offer → Prop) :
    table.DecidesLike table offers := fun _ _ => rfl

theorem DecidesLike.symm (h : table.DecidesLike other offers) : other.DecidesLike table offers :=
  fun offer hoffer => (h offer hoffer).symm

theorem DecidesLike.trans (h : table.DecidesLike other offers)
    (h' : other.DecidesLike later offers) : table.DecidesLike later offers :=
  fun offer hoffer => (h offer hoffer).trans (h' offer hoffer)

/-- A table accepts a binding unless its simple name stands for something else. -/
theorem canBind_iff {simple qualified : Text} :
    table.canBind simple qualified = true ↔
      ∀ bound, table.binding? simple = some bound → bound = qualified := by
  simp [canBind, Option.all_eq_true]

/-- Binding gives a table exactly where the table accepts the binding. -/
theorem exists_bind?_iff {simple qualified : Text} :
    (∃ bound, table.bind? simple qualified = some bound) ↔
      table.canBind simple qualified = true := by
  unfold bind?
  split <;> simp_all

/-- A table that has grown by what was offered decides as before: a name that was free is bound to
what all offers of it ask for. -/
theorem decidesLike_of_extends (hconsistent : Consistent offers) (hextends : later.Extends table)
    (hgrown : ∀ binding ∈ later.bindings,
      binding ∈ table.bindings ∨ ∃ offer, offers offer ∧ binding = offer.binding) :
    later.DecidesLike table offers := by
  intro offer hoffer
  rw [Bool.eq_iff_iff, canBind_iff, canBind_iff]
  constructor
  · intro h bound hbound
    exact h bound (hextends offer.simple bound hbound)
  · intro h bound hbound
    rcases hgrown _ (mem_bindings_iff.mpr hbound) with hold | ⟨maker, hmaker, heq⟩
    · exact h bound (mem_bindings_iff.mp hold)
    · have hsimple : offer.simple = maker.simple := congrArg Prod.fst heq
      have hqualified : bound = maker.qualified := congrArg Prod.snd heq
      rw [hqualified, hconsistent maker offer hmaker hoffer hsimple.symm]

end ImportTable

namespace Resolver

variable {resolver : Resolver} {scope : Scope} {table other : ImportTable} {offers : Offer → Prop}

/-- Resolving a reference leaves a table that decides about consistent offers as the one before, if
they include all that the reference offers. -/
theorem decidesLike_shorten (hconsistent : Consistent offers) {type : TypeRef} {keep : Nat}
    (hoffers : ∀ offer, resolver.Offers scope type keep offer → offers offer)
    (table : ImportTable) :
    (resolver.shorten scope table type keep).2.DecidesLike table offers := by
  apply ImportTable.decidesLike_of_extends hconsistent
    (extends_shorten resolver scope table type keep)
  intro binding hbinding
  rcases (mem_bindings_shorten ..).mp hbinding with hold | ⟨inner, offer, hshortens, heq⟩
  · exact Or.inl hold
  · exact Or.inr ⟨offer, hoffers offer hshortens.offers, heq⟩

/-- Resolving arguments leaves a table that decides as the one before. -/
theorem decidesLike_shortenArgs (hconsistent : Consistent offers) {args : List TypeArg}
    (hoffers : ∀ arg ∈ args, ∀ offer, resolver.Offers scope arg.type 1 offer → offers offer)
    (table : ImportTable) :
    (resolver.shortenArgs scope table args).2.DecidesLike table offers := by
  induction args generalizing table with
  | nil =>
    rw [shortenArgs]
    exact .refl table offers
  | cons arg args ih =>
    have hfirst := decidesLike_shorten hconsistent (hoffers arg (by simp)) table
    have hrest := ih (fun arg harg => hoffers arg (by simp [harg]))
      (resolver.shorten scope table arg.type 1).2
    rw [shortenArgs_cons_snd]
    exact hrest.trans hfirst

/-- What one table accepts, a table that decides alike accepts as well. -/
theorem exists_bind?_of_decidesLike {offer : Offer} {bound : ImportTable}
    (halike : table.DecidesLike other offers) (hoffer : offers offer)
    (hbind : table.bind? offer.simple offer.qualified = some bound) :
    ∃ bound', other.bind? offer.simple offer.qualified = some bound' := by
  have hcan := ImportTable.exists_bind?_iff.mp ⟨bound, hbind⟩
  rw [halike offer hoffer] at hcan
  exact ImportTable.exists_bind?_iff.mpr hcan

/-- Binding what is offered leaves a table that decides as the one before. -/
theorem decidesLike_bind? (hconsistent : Consistent offers) {offer : Offer} {bound : ImportTable}
    (hoffer : offers offer) (hbind : table.bind? offer.simple offer.qualified = some bound) :
    bound.DecidesLike table offers := by
  apply ImportTable.decidesLike_of_extends hconsistent (ImportTable.extends_of_bind? hbind)
  intro binding hbinding
  rcases ImportTable.mem_bindings_of_bind? hbind hbinding with hnew | hold
  · exact Or.inr ⟨offer, hoffer, hnew⟩
  · exact Or.inl hold

/-! ## The same references are shortened -/

/-- What is shortened with one table is shortened with every table that decides alike. -/
theorem Shortens.of_decidesLike (hconsistent : Consistent offers) {type inner : TypeRef}
    {keep : Nat} {offer : Offer} (h : resolver.Shortens scope table type keep inner offer)
    (hoffers : ∀ offer, resolver.Offers scope type keep offer → offers offer)
    (halike : table.DecidesLike other offers) :
    resolver.Shortens scope other type keep inner offer := by
  induction h generalizing other with
  | here offered accepted =>
    obtain ⟨bound', hbind⟩ := exists_bind?_of_decidesLike halike (hoffers _ (.here offered)) accepted
    exact .here offered hbind
  | @inside table bound type inner keep outer offer bracket before after arg offered accepted suffix
      shortened ih =>
    have houter := hoffers outer (.here offered)
    obtain ⟨bound', hbind⟩ := exists_bind?_of_decidesLike halike houter accepted
    have hargs : ∀ arg' ∈ before ++ arg :: after, ∀ offer,
        resolver.Offers scope arg'.type 1 offer → offers offer :=
      fun arg' harg offer hoffer => hoffers offer (.inside offered suffix harg hoffer)
    have hbefore : ∀ arg' ∈ before, ∀ offer,
        resolver.Offers scope arg'.type 1 offer → offers offer :=
      fun arg' harg => hargs arg' (by simp [harg])
    -- both tables have come the same way, each accepting what the other accepts
    have hleft := (decidesLike_shortenArgs hconsistent hbefore bound).trans
      (decidesLike_bind? hconsistent houter accepted)
    have hright := (decidesLike_shortenArgs hconsistent hbefore bound').trans
      (decidesLike_bind? hconsistent houter hbind)
    exact .inside offered hbind suffix
      (ih (hargs arg (by simp)) ((hleft.trans halike).trans hright.symm))

/-! ## The same text is written -/

/-- A reference whose offer is accepted is cut down, and its suffix is resolved with the new
table. -/
theorem shorten_of_accepted {type : TypeRef} {keep : Nat} {offer : Offer} {bound : ImportTable}
    (hoffer : resolver.offer? scope (resolver.rename type) keep = some offer)
    (hbind : table.bind? offer.simple offer.qualified = some bound) :
    (resolver.shorten scope table type keep).1 =
      .mk ((resolver.rename type).names.drop offer.omitted)
        (resolver.shortenSuffix scope bound (resolver.rename type).suffix).1 := by
  have hclass : resolver.bindClass? scope table (resolver.rename type) keep =
      some (offer.omitted, bound) := by
    rw [bindClass?_eq, hoffer, Option.bind_some, hbind, Option.map_some]
  rw [shorten, hclass]

/-- A reference whose offer is refused is written as renamed. -/
theorem shorten_of_refused {type : TypeRef} {keep : Nat}
    (h : ∀ offer, resolver.offer? scope (resolver.rename type) keep = some offer →
      table.canBind offer.simple offer.qualified = false) :
    (resolver.shorten scope table type keep).1 = resolver.rename type := by
  rcases resolver.shorten_cases scope table type keep with hsame | ⟨offer, bound, hoffer, hbind, -⟩
  · rw [hsame]
  · have hcan := ImportTable.exists_bind?_iff.mp ⟨bound, hbind⟩
    rw [h offer hoffer] at hcan
    exact absurd hcan (by simp)

/-- Arguments are written alike, given that each of them is. -/
theorem shortenArgs_of_decidesLike (hconsistent : Consistent offers) {args : List TypeArg}
    (hoffers : ∀ arg ∈ args, ∀ offer, resolver.Offers scope arg.type 1 offer → offers offer)
    (h : ∀ arg ∈ args, ∀ table other : ImportTable, table.DecidesLike other offers →
      (resolver.shorten scope table arg.type 1).1 = (resolver.shorten scope other arg.type 1).1)
    (halike : table.DecidesLike other offers) :
    (resolver.shortenArgs scope table args).1 = (resolver.shortenArgs scope other args).1 := by
  induction args generalizing table other with
  | nil => rw [shortenArgs, shortenArgs]
  | cons arg args ih =>
    have hoffers' : ∀ offer, resolver.Offers scope arg.type 1 offer → offers offer :=
      hoffers arg (by simp)
    have hafter : (resolver.shorten scope table arg.type 1).2.DecidesLike
        (resolver.shorten scope other arg.type 1).2 offers :=
      ((decidesLike_shorten hconsistent hoffers' table).trans halike).trans
        (decidesLike_shorten hconsistent hoffers' other).symm
    have hfirst := h arg (by simp) table other halike
    have hrest := ih (fun arg harg => hoffers arg (by simp [harg]))
      (fun arg harg => h arg (by simp [harg])) hafter
    obtain ⟨type, nullable⟩ := arg
    rw [shortenArgs, shortenArgs]
    exact congrArg₂ (fun type args => TypeArg.mk type nullable :: args) hfirst hrest

/-- A reference is written alike with tables that decide alike about all that it offers. -/
theorem shorten_of_decidesLike (hconsistent : Consistent offers) (type : TypeRef) (keep : Nat)
    (hoffers : ∀ offer, resolver.Offers scope type keep offer → offers offer)
    {table other : ImportTable} (halike : table.DecidesLike other offers) :
    (resolver.shorten scope table type keep).1 = (resolver.shorten scope other type keep).1 := by
  cases hoffer : resolver.offer? scope (resolver.rename type) keep with
  | none =>
    rw [shorten_of_refused (by simp [hoffer]), shorten_of_refused (by simp [hoffer])]
  | some offer =>
    have hmine := hoffers offer (.here hoffer)
    cases hcan : table.canBind offer.simple offer.qualified with
    | false =>
      -- what one table refuses of the reference, the other refuses too
      have hother := (halike offer hmine).symm.trans hcan
      rw [shorten_of_refused (by simp [hoffer, hcan]), shorten_of_refused (by simp [hoffer, hother])]
    | true =>
      obtain ⟨bound, hbind⟩ := ImportTable.exists_bind?_iff.mpr hcan
      obtain ⟨bound', hbind'⟩ := exists_bind?_of_decidesLike halike hmine hbind
      rw [shorten_of_accepted hoffer hbind, shorten_of_accepted hoffer hbind']
      congr 1
      cases hsuffix : (resolver.rename type).suffix with
      | empty => rw [shortenSuffix, shortenSuffix]
      | verbatim text => rw [shortenSuffix, shortenSuffix]
      | plain bracket args =>
        rw [shortenSuffix, shortenSuffix]
        have hargs : ∀ arg ∈ args, ∀ offer,
            resolver.Offers scope arg.type 1 offer → offers offer :=
          fun arg harg inner hinner => hoffers inner (.inside hoffer hsuffix harg hinner)
        -- each bound table decides like the table before it
        have hbound : bound.DecidesLike bound' offers :=
          ((decidesLike_bind? hconsistent hmine hbind).trans halike).trans
            (decidesLike_bind? hconsistent hmine hbind').symm
        exact congrArg (Suffix.plain bracket) (shortenArgs_of_decidesLike hconsistent hargs
          (fun arg harg table other halike =>
            shorten_of_decidesLike hconsistent arg.type 1 (hargs arg harg) halike) hbound)
termination_by weight type
decreasing_by
  have hlt := weight_lt_of_mem harg
  have hrename := weight_rename_le resolver type
  rw [weight_eq, hsuffix, suffixWeight] at hrename
  omega

/-! ## Requests in any order -/

/-- The texts that are written for some requests, one after the other, and the table after that. -/
def answerEach (resolver : Resolver) : ImportTable → List Request → List Text × ImportTable
  | table, [] => ([], table)
  | table, request :: requests =>
    let (text, table) := resolver.resolve request.scope table request.text request.keep
    let (texts, table) := resolver.answerEach table requests
    (text :: texts, table)

/-- The text that is written for a request with a table. -/
def answer (resolver : Resolver) (table : ImportTable) (request : Request) : Text :=
  (resolver.resolve request.scope table request.text request.keep).1

theorem answerEach_cons (resolver : Resolver) (table : ImportTable) (request : Request)
    (requests : List Request) :
    resolver.answerEach table (request :: requests) =
      (resolver.answer table request ::
          (resolver.answerEach (table.step (resolver.step request)) requests).1,
        (resolver.answerEach (table.step (resolver.step request)) requests).2) := rfl

/-- Answering requests leaves the table that resolving them leaves. -/
theorem answerEach_snd (resolver : Resolver) (table : ImportTable) (requests : List Request) :
    (resolver.answerEach table requests).2 = resolver.resolveEach table requests := by
  induction requests generalizing table with
  | nil => rfl
  | cons request requests ih =>
    rw [answerEach_cons, resolveEach_cons]
    exact ih _

/-- Resolving several texts is answering requests that all have the same scope and length. -/
theorem resolveAll_eq_answerEach (resolver : Resolver) (scope : Scope) (keep : Nat)
    (texts : List Text) (table : ImportTable) :
    resolver.resolveAll scope keep texts table =
      resolver.answerEach table (texts.map fun text => ⟨scope, text, keep⟩) := by
  induction texts generalizing table with
  | nil => rfl
  | cons text texts ih =>
    show (_ :: _, _) = (_ :: _, _)
    rw [ih]

/-- Resolving a request leaves a table that decides as the one before. -/
theorem decidesLike_step (hconsistent : Consistent offers) {request : Request}
    (hoffers : ∀ offer, resolver.OffersAt request offer → offers offer) (table : ImportTable) :
    (table.step (resolver.step request)).DecidesLike table offers := by
  apply ImportTable.decidesLike_of_extends hconsistent (table.extends_step _)
  intro binding hbinding
  rcases (mem_bindings_step ..).mp hbinding with hold | ⟨inner, offer, hshortens, heq⟩
  · exact Or.inl hold
  · exact Or.inr ⟨offer, hoffers offer hshortens.offersAt, heq⟩

/-- Resolving requests, however many, leaves a table that decides as the one before. -/
theorem decidesLike_resolveEach (hconsistent : Consistent offers) (table : ImportTable)
    (requests : List Request)
    (hoffers : ∀ request ∈ requests, ∀ offer, resolver.OffersAt request offer → offers offer) :
    (resolver.resolveEach table requests).DecidesLike table offers := by
  induction requests generalizing table with
  | nil => exact .refl table offers
  | cons request requests ih =>
    have hfirst := decidesLike_step hconsistent (hoffers request (by simp)) table
    have hrest := ih (table.step (resolver.step request))
      fun request hrequest => hoffers request (by simp [hrequest])
    exact hrest.trans hfirst

/-- Tables that decide alike about what a request offers give it the same answer. -/
theorem answer_of_decidesLike (hconsistent : Consistent offers) {request : Request}
    (hoffers : ∀ offer, resolver.OffersAt request offer → offers offer)
    (halike : table.DecidesLike other offers) :
    resolver.answer table request = resolver.answer other request := by
  unfold answer resolve
  split
  · rfl
  · next hdot =>
    cases hparse : TypeRef.parse? request.text with
    | none => rfl
    | some type =>
      have hmem : '.' ∈ request.text := by simpa using hdot
      simp only [resolveType_eq]
      rw [shorten_of_decidesLike hconsistent type request.keep
        (fun offer hoffer => hoffers offer ⟨type, hmem, hparse, hoffer⟩) halike]

/-- Tables that decide alike about what a request offers have it bind the same. -/
theorem ShortensAt.of_decidesLike (hconsistent : Consistent offers) {request : Request}
    {inner : TypeRef} {offer : Offer} (h : resolver.ShortensAt table request inner offer)
    (hoffers : ∀ offer, resolver.OffersAt request offer → offers offer)
    (halike : table.DecidesLike other offers) :
    resolver.ShortensAt other request inner offer := by
  obtain ⟨type, hdot, hparse, hshortens⟩ := h
  exact ⟨type, hdot, hparse, hshortens.of_decidesLike hconsistent
    (fun offer hoffer => hoffers offer ⟨type, hdot, hparse, hoffer⟩) halike⟩

/-- Each request is answered as if it were the first one. -/
theorem answerEach_of_consistent (hconsistent : Consistent offers) {requests : List Request}
    (hoffers : ∀ request ∈ requests, ∀ offer, resolver.OffersAt request offer → offers offer)
    (halike : other.DecidesLike table offers) :
    (resolver.answerEach other requests).1 = requests.map (resolver.answer table) := by
  induction requests generalizing other with
  | nil => rfl
  | cons request requests ih =>
    have hmine := hoffers request (by simp)
    have hafter := (decidesLike_step hconsistent hmine other).trans halike
    rw [answerEach_cons, List.map_cons, answer_of_decidesLike hconsistent hmine halike,
      ih (fun request hrequest => hoffers request (by simp [hrequest])) hafter]

/-- The table in the end holds what each request would add to the table at the start. -/
theorem mem_bindings_of_consistent (hconsistent : Consistent offers) {requests : List Request}
    (hoffers : ∀ request ∈ requests, ∀ offer, resolver.OffersAt request offer → offers offer)
    (table : ImportTable) (binding : Text × Text) :
    binding ∈ (resolver.resolveEach table requests).bindings ↔
      binding ∈ table.bindings ∨
        ∃ request ∈ requests, ∃ inner offer, resolver.ShortensAt table request inner offer ∧
          binding = offer.binding := by
  rw [mem_bindings_resolveEach]
  -- a request shortens the same with the table that it finds as with the one at the start
  refine or_congr_right ⟨?_, ?_⟩
  · rintro ⟨inner, offer, ⟨before, request, after, rfl, h⟩, heq⟩
    have halike := decidesLike_resolveEach hconsistent table before
      fun request hrequest => hoffers request (by simp [hrequest])
    exact ⟨request, by simp, inner, offer,
      h.of_decidesLike hconsistent (hoffers request (by simp)) halike, heq⟩
  · rintro ⟨request, hrequest, inner, offer, h, heq⟩
    obtain ⟨before, after, rfl⟩ := List.append_of_mem hrequest
    have halike := decidesLike_resolveEach hconsistent table before
      fun request hrequest => hoffers request (by simp [hrequest])
    exact ⟨inner, offer, ⟨before, request, after, rfl,
      h.of_decidesLike hconsistent (hoffers request (by simp)) halike.symm⟩, heq⟩

/-- References whose offers are consistent are written alike in any order, whatever the table at the
start accepts or refuses of them: each gets the text that it would get as the first one. The order
makes no difference to the table in the end either, and so none to any import block. -/
theorem answerEach_reordered (resolver : Resolver) (table : ImportTable)
    {requests reordered : List Request}
    (hconsistent : Consistent fun offer => ∃ request ∈ requests, resolver.OffersAt request offer)
    (hreordered : reordered.Perm requests) :
    (resolver.answerEach table requests).1 = requests.map (resolver.answer table) ∧
    (resolver.answerEach table reordered).1 = reordered.map (resolver.answer table) ∧
    (resolver.answerEach table reordered).2 = (resolver.answerEach table requests).2 ∧
    ∀ (style : ImportStyle) (package : Option Text),
      style.block (resolver.answerEach table reordered).2 package =
        style.block (resolver.answerEach table requests).2 package := by
  have hoffers : ∀ request ∈ requests, ∀ offer, resolver.OffersAt request offer →
      ∃ request ∈ requests, resolver.OffersAt request offer :=
    fun request hrequest offer hoffer => ⟨request, hrequest, hoffer⟩
  have hoffers' : ∀ request ∈ reordered, ∀ offer, resolver.OffersAt request offer →
      ∃ request ∈ requests, resolver.OffersAt request offer :=
    fun request hrequest => hoffers request (hreordered.mem_iff.mp hrequest)
  have htable : (resolver.answerEach table reordered).2 = (resolver.answerEach table requests).2 := by
    rw [answerEach_snd, answerEach_snd]
    apply ImportTable.ext_mem
    intro binding
    rw [mem_bindings_of_consistent hconsistent hoffers,
      mem_bindings_of_consistent hconsistent hoffers']
    simp only [hreordered.mem_iff]
  refine ⟨?_, ?_, htable, ?_⟩
  · exact answerEach_of_consistent hconsistent hoffers (.refl table _)
  · exact answerEach_of_consistent hconsistent hoffers' (.refl table _)
  · intro style package
    rw [htable]

/-- A list is not imported, as its name is taken, so its argument is not either; the set is imported
for an argument or for its member, whichever comes first. -/
theorem answerEach_reordered_members :
    let scope : Scope := ⟨"Main".toList, none⟩
    let resolver : Resolver := ⟨Dialect.java.policy, none⟩
    let map : Request := ⟨scope, "a.Map<b.List<d.E>, c.Set>".toList, 1⟩
    let member : Request := ⟨scope, "c.Set.K".toList, 2⟩
    ∃ table, ImportTable.empty.bind? "List".toList "z.List".toList = some table ∧
      (Consistent fun offer => ∃ request ∈ [map, member], resolver.OffersAt request offer) ∧
      [member, map].Perm [map, member] ∧
      (resolver.answerEach table [map, member]).1 =
        ["Map<b.List<d.E>, Set>".toList, "Set.K".toList] ∧
      (resolver.answerEach table [member, map]).1 =
        ["Set.K".toList, "Map<b.List<d.E>, Set>".toList] ∧
      (resolver.answerEach table [member, map]).2 = (resolver.answerEach table [map, member]).2 := by
  intro scope resolver map member
  have hconsistent :
      Consistent fun offer => ∃ request ∈ [map, member], resolver.OffersAt request offer := by
    let e : TypeRef := .mk ["d".toList, "E".toList] .empty
    let list : TypeRef := .mk ["b".toList, "List".toList] (.plain .angle [.mk e false])
    let set : TypeRef := .mk ["c".toList, "Set".toList] .empty
    let mapType : TypeRef :=
      .mk ["a".toList, "Map".toList] (.plain .angle [.mk list false, .mk set false])
    let memberType : TypeRef := .mk ["c".toList, "Set".toList, "K".toList] .empty
    have hmap : TypeRef.parse? map.text = some mapType := by rw [TypeRef.parse?_eq]; rfl
    have hmember : TypeRef.parse? member.text = some memberType := by rw [TypeRef.parse?_eq]; rfl
    let pairs := [("Map".toList, "a.Map".toList), ("List".toList, "b.List".toList),
      ("E".toList, "d.E".toList), ("Set".toList, "c.Set".toList)]
    have hpairs : ∀ offer, (∃ request ∈ [map, member], resolver.OffersAt request offer) →
        offer.binding ∈ pairs := by
      have he : ∀ offer, resolver.Offers scope e 1 offer → offer.binding ∈ pairs :=
        forall_offers ⟨"E".toList, "d.E".toList, 1⟩ rfl (by decide)
          fun _ _ h => Suffix.noConfusion h
      have hset : ∀ offer, resolver.Offers scope set 1 offer → offer.binding ∈ pairs :=
        forall_offers ⟨"Set".toList, "c.Set".toList, 1⟩ rfl (by decide)
          fun _ _ h => Suffix.noConfusion h
      have hlist : ∀ offer, resolver.Offers scope list 1 offer → offer.binding ∈ pairs := by
        refine forall_offers ⟨"List".toList, "b.List".toList, 1⟩ rfl (by decide) ?_
        intro bracket args hsuffix
        obtain ⟨-, rfl⟩ := Suffix.plain.inj hsuffix
        simpa [TypeArg.type] using he
      have hmapType : ∀ offer, resolver.Offers scope mapType 1 offer → offer.binding ∈ pairs := by
        refine forall_offers ⟨"Map".toList, "a.Map".toList, 1⟩ rfl (by decide) ?_
        intro bracket args hsuffix
        obtain ⟨-, rfl⟩ := Suffix.plain.inj hsuffix
        simpa [TypeArg.type] using ⟨hlist, hset⟩
      have hmemberType :
          ∀ offer, resolver.Offers scope memberType 2 offer → offer.binding ∈ pairs :=
        forall_offers ⟨"Set".toList, "c.Set".toList, 1⟩ rfl (by decide)
          fun _ _ h => Suffix.noConfusion h
      rintro offer ⟨request, hrequest, type, -, hparse, hoffers⟩
      rcases List.mem_pair.mp hrequest with rfl | rfl
      · cases hmap.symm.trans hparse
        exact hmapType offer hoffers
      · cases hmember.symm.trans hparse
        exact hmemberType offer hoffers
    have hfunctional : ∀ first ∈ pairs, ∀ second ∈ pairs,
        first.1 = second.1 → first.2 = second.2 := by decide
    intro first second hfirst hsecond hsimple
    exact hfunctional _ (hpairs first hfirst) _ (hpairs second hsecond) hsimple
  have hreordered : [member, map].Perm [map, member] := List.Perm.swap map member []
  refine ⟨_, rfl, hconsistent, hreordered, ?_, ?_, ?_⟩
  · decide +kernel
  · decide +kernel
  · exact (answerEach_reordered resolver _ hconsistent hreordered).2.2.1

end Resolver

end JvmSource
