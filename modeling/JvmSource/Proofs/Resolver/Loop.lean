import Mathlib.Tactic.Common
import JvmSource.Proofs.Resolver.Recursion

/-!
# The loop that writes references

A reference is written by a loop that takes one thing after the other off a list of pending work.
What it is to write is a matter of recursion: an outer type before its arguments, the arguments from
left to right, each with the table that the one before it has left. `Writes` says this with one rule
for each way of writing a reference. `turn?` is one turn of the loop; each turn makes the pending
work lighter, so the loop comes to an end, and what it has written then is what the rules say.
-/

namespace JvmSource

/-- Arguments are printed with a comma and a space between them. -/
theorem TypeArg.printAll_eq_intercalate (args : List TypeArg) :
    TypeArg.printAll args = [',', ' '].intercalate (args.map TypeArg.print) := by
  induction args with
  | nil => simp [TypeArg.printAll, List.intercalate]
  | cons arg args ih =>
    cases args with
    | nil => simp [TypeArg.printAll, List.intercalate]
    | cons arg' args =>
      rw [TypeArg.printAll, ih]
      · simp only [List.map_cons, List.intercalate_cons_cons, List.cons_append, List.nil_append,
          List.append_assoc]
      · simp

namespace Resolver

variable {resolver : Resolver} {scope : Scope}

/-! ## The recursion -/

mutual

/-- The text that is written for a reference, of which `keep` names are to be written, and the table
after that. The reference is renamed first. If it gets no binding it is written as it is then, and
nothing is bound for it or inside it. -/
inductive Writes (resolver : Resolver) (scope : Scope) :
    ImportTable → TypeRef → Nat → Text → ImportTable → Prop where
  | refused {table : ImportTable} {type : TypeRef} {keep : Nat}
      (refused : resolver.bindClass? scope table (resolver.rename type) keep = none) :
      Writes resolver scope table type keep (resolver.rename type).print table
  | shortened {table bound after : ImportTable} {type : TypeRef} {keep omitted : Nat}
      {suffix : Text}
      (binds : resolver.bindClass? scope table (resolver.rename type) keep = some (omitted, bound))
      (writes : WritesSuffix resolver scope bound (resolver.rename type).suffix suffix after) :
      Writes resolver scope table type keep
        (Text.dotted ((resolver.rename type).names.drop omitted) ++ suffix) after

/-- The text that is written for a suffix: arguments stand between the brackets, with commas between
them, and any other suffix stays as it is. -/
inductive WritesSuffix (resolver : Resolver) (scope : Scope) :
    ImportTable → Suffix → Text → ImportTable → Prop where
  | empty {table : ImportTable} : WritesSuffix resolver scope table .empty [] table
  | verbatim {table : ImportTable} {text : Text} :
      WritesSuffix resolver scope table (.verbatim text) text table
  | plain {table after : ImportTable} {bracket : Bracket} {args : List TypeArg}
      {texts : List Text} (writes : WritesArgs resolver scope table args texts after) :
      WritesSuffix resolver scope table (.plain bracket args)
        (bracket.opening :: ([',', ' '].intercalate texts ++ [bracket.closing])) after

/-- The texts that are written for arguments, from left to right, each with its question mark. -/
inductive WritesArgs (resolver : Resolver) (scope : Scope) :
    ImportTable → List TypeArg → List Text → ImportTable → Prop where
  | nil {table : ImportTable} : WritesArgs resolver scope table [] [] table
  | cons {table middle after : ImportTable} {type : TypeRef} {nullable : Bool}
      {args : List TypeArg} {text : Text} {texts : List Text}
      (first : Writes resolver scope table type 1 text middle)
      (others : WritesArgs resolver scope middle args texts after) :
      WritesArgs resolver scope table (.mk type nullable :: args)
        ((text ++ if nullable then ['?'] else []) :: texts) after

end

mutual

/-- The rules give one text and one table, those of the reference in its shortened form. -/
theorem writes_iff (resolver : Resolver) (scope : Scope) (table : ImportTable) (type : TypeRef)
    (keep : Nat) {text : Text} {after : ImportTable} :
    Writes resolver scope table type keep text after ↔
      text = (resolver.shorten scope table type keep).1.print ∧
        after = (resolver.shorten scope table type keep).2 := by
  rw [shorten]
  cases hbind : resolver.bindClass? scope table (resolver.rename type) keep with
  | none =>
    constructor
    · intro h
      cases h with
      | refused refused => exact ⟨rfl, rfl⟩
      | shortened binds writes => exact absurd (hbind.symm.trans binds) (by simp)
    · intro ⟨htext, hafter⟩
      rw [htext, hafter]
      exact .refused hbind
  | some found =>
    obtain ⟨omitted, bound⟩ := found
    -- a suffix is written with the table in which the class is bound
    have hsuffix := fun {text : Text} {after : ImportTable} =>
      @writesSuffix_iff resolver scope bound (resolver.rename type).suffix text after
    constructor
    · intro h
      cases h with
      | refused refused => exact absurd (hbind.symm.trans refused) (by simp)
      | shortened binds writes =>
        cases hbind.symm.trans binds
        obtain ⟨htext, hafter⟩ := hsuffix.mp writes
        exact ⟨by rw [htext, TypeRef.print], hafter⟩
    · intro ⟨htext, hafter⟩
      rw [htext, hafter, TypeRef.print]
      exact .shortened hbind (hsuffix.mpr ⟨rfl, rfl⟩)
termination_by weight type
decreasing_by
  have := weight_rename_le resolver type
  rw [weight_eq] at this
  omega

theorem writesSuffix_iff (resolver : Resolver) (scope : Scope) (table : ImportTable)
    (suffix : Suffix) {text : Text} {after : ImportTable} :
    WritesSuffix resolver scope table suffix text after ↔
      text = (resolver.shortenSuffix scope table suffix).1.print ∧
        after = (resolver.shortenSuffix scope table suffix).2 := by
  cases suffix with
  | empty =>
    rw [shortenSuffix, Suffix.print]
    constructor
    · intro h
      cases h
      exact ⟨rfl, rfl⟩
    · intro ⟨htext, hafter⟩
      rw [htext, hafter]
      exact .empty
  | verbatim kept =>
    rw [shortenSuffix, Suffix.print]
    constructor
    · intro h
      cases h
      exact ⟨rfl, rfl⟩
    · intro ⟨htext, hafter⟩
      rw [htext, hafter]
      exact .verbatim
  | plain bracket args =>
    rw [shortenSuffix, Suffix.print, TypeArg.printAll_eq_intercalate]
    have hargs := fun {texts : List Text} {after : ImportTable} =>
      @writesArgs_iff resolver scope table args texts after
    constructor
    · intro h
      cases h with
      | plain writes =>
        obtain ⟨htexts, hafter⟩ := hargs.mp writes
        exact ⟨by rw [htexts], hafter⟩
    · intro ⟨htext, hafter⟩
      rw [htext, hafter]
      exact .plain (hargs.mpr ⟨rfl, rfl⟩)
termination_by suffixWeight suffix
decreasing_by
  simp only [suffixWeight]
  omega

/-- The recursive rules write the shortened arguments. -/
theorem writesArgs_iff (resolver : Resolver) (scope : Scope) (table : ImportTable)
    (args : List TypeArg) {texts : List Text} {after : ImportTable} :
    WritesArgs resolver scope table args texts after ↔
      texts = (resolver.shortenArgs scope table args).1.map TypeArg.print ∧
        after = (resolver.shortenArgs scope table args).2 := by
  match args with
  | [] =>
    rw [shortenArgs]
    constructor
    · intro h
      cases h
      exact ⟨rfl, rfl⟩
    · intro ⟨htexts, hafter⟩
      rw [htexts, hafter]
      exact .nil
  | .mk type nullable :: args =>
    rw [shortenArgs]
    have hfirst := fun {text : Text} {after : ImportTable} =>
      @writes_iff resolver scope table type 1 text after
    -- the others start from whatever table the first argument leaves
    have hothers := fun {table after : ImportTable} {texts : List Text} =>
      @writesArgs_iff resolver scope table args texts after
    constructor
    · intro h
      cases h with
      | cons first others =>
        obtain ⟨htext, hmiddle⟩ := hfirst.mp first
        subst hmiddle
        obtain ⟨htexts, hafter⟩ := hothers.mp others
        exact ⟨by rw [htext, htexts, List.map_cons, TypeArg.print], hafter⟩
    · intro ⟨htexts, hafter⟩
      rw [htexts, hafter, List.map_cons, TypeArg.print]
      exact .cons (hfirst.mpr ⟨rfl, rfl⟩) (hothers.mpr ⟨rfl, rfl⟩)
termination_by argsWeight args
decreasing_by
  all_goals simp only [argsWeight]
  all_goals omega

end

/-! ## The loop -/

/-- What the loop has written, what is pending, and the table. -/
structure Work where
  written : Text
  pending : List Pending
  table : ImportTable

/-- One turn of the loop: what is pending first is taken off the list and written, and arguments
become pending in its place. There is no turn when nothing is pending. -/
def turn? (resolver : Resolver) (scope : Scope) (work : Work) : Option Work :=
  match work.pending with
  | [] => none
  | .text text :: pending => some ⟨work.written ++ text, pending, work.table⟩
  | .type type keep :: pending =>
    let type := resolver.rename type
    match resolver.bindClass? scope work.table type keep with
    | none => some ⟨work.written ++ type.print, pending, work.table⟩
    | some (omitted, table) =>
      let path := Text.dotted (type.names.drop omitted)
      match type.suffix with
      | .plain bracket args =>
        some ⟨work.written ++ (path ++ [bracket.opening]),
          pushArgs args (.text [bracket.closing] :: pending), table⟩
      | suffix => some ⟨work.written ++ (path ++ suffix.print), pending, table⟩

/-- Whether the loop ends after some turns, and how it leaves the work. -/
inductive Ends (resolver : Resolver) (scope : Scope) : Nat → Work → Work → Prop where
  | now {work : Work} (finished : resolver.turn? scope work = none) : Ends resolver scope 0 work work
  | later {turns : Nat} {work next last : Work} (turn : resolver.turn? scope work = some next)
      (rest : Ends resolver scope turns next last) : Ends resolver scope (turns + 1) work last

/-- A turn is taken as long as anything is pending. -/
theorem turn?_eq_none_iff {work : Work} :
    resolver.turn? scope work = none ↔ work.pending = [] := by
  unfold turn?
  split
  · simp [*]
  · simp [*]
  · next hpending =>
    simp only [hpending]
    split
    · simp
    · split <;> simp

/-- A turn takes from the weight of what is pending: arguments are lighter than their type. -/
theorem pendingWeight_turn?_lt {work next : Work} (h : resolver.turn? scope work = some next) :
    pendingWeight next.pending < pendingWeight work.pending := by
  unfold turn? at h
  split at h
  · exact absurd h (by simp)
  · next text pending hpending =>
    cases h
    rw [hpending, pendingWeight]
    show pendingWeight pending < _
    omega
  · next type keep pending hpending =>
    -- renaming makes no reference heavier
    have hrename := weight_rename_le resolver type
    rw [weight_eq] at hrename
    rw [hpending, pendingWeight]
    simp only at h
    split at h
    · cases h
      show pendingWeight pending < _
      omega
    · split at h
      · next bracket args hsuffix =>
        cases h
        have hargs := pendingWeight_pendingArgs_le args
        rw [hsuffix, suffixWeight] at hrename
        show pendingWeight (pushArgs args (.text [bracket.closing] :: pending)) < _
        rw [pushArgs_eq, pendingWeight_append, pendingWeight]
        omega
      · cases h
        show pendingWeight pending < _
        omega

/-- The loop ends, after at most as many turns as the pending work weighs. -/
theorem exists_ends (resolver : Resolver) (scope : Scope) (work : Work) :
    ∃ turns ≤ pendingWeight work.pending, ∃ last, Ends resolver scope turns work last := by
  induction hweight : pendingWeight work.pending using Nat.strongRecOn
      generalizing work with
  | _ bound ih =>
    cases hturn : resolver.turn? scope work with
    | none => exact ⟨0, Nat.zero_le bound, work, .now hturn⟩
    | some next =>
      have hlighter := pendingWeight_turn?_lt hturn
      obtain ⟨turns, hturns, last, hlast⟩ := ih _ (hweight ▸ hlighter) next rfl
      exact ⟨turns + 1, by omega, last, .later hturn hlast⟩

/-- Writing with one step more takes one turn more. -/
theorem write_of_turn? {work next : Work} (h : resolver.turn? scope work = some next)
    (steps : Nat) :
    work.written ++ (resolver.write scope (steps + 1) work.pending work.table).1 =
        next.written ++ (resolver.write scope steps next.pending next.table).1 ∧
      (resolver.write scope (steps + 1) work.pending work.table).2 =
        (resolver.write scope steps next.pending next.table).2 := by
  obtain ⟨written, pending, table⟩ := work
  cases pending with
  | nil => exact absurd h (by simp [turn?])
  | cons item pending =>
    cases item with
    | text text =>
      cases h
      simp [write]
    | type type keep =>
      cases hbind : resolver.bindClass? scope table (resolver.rename type) keep with
      | none =>
        simp only [turn?, hbind] at h
        cases h
        simp [write, hbind]
      | some found =>
        obtain ⟨omitted, bound⟩ := found
        simp only [turn?, hbind] at h
        -- arguments become pending, any other suffix is written at once
        cases hsuffix : (resolver.rename type).suffix with
        | empty | verbatim | plain =>
          simp only [hsuffix] at h
          cases h
          simp [write, hbind, hsuffix]

/-- When the loop has ended, nothing is pending, and it has written what writing in as many steps,
or more, writes. -/
theorem Ends.eq_write {turns steps : Nat} {work last : Work} (h : Ends resolver scope turns work last)
    (hsteps : turns ≤ steps) :
    last = ⟨work.written ++ (resolver.write scope steps work.pending work.table).1, [],
      (resolver.write scope steps work.pending work.table).2⟩ := by
  induction h generalizing steps with
  | @now work finished =>
    obtain ⟨written, pending, table⟩ := work
    have hpending : pending = [] := turn?_eq_none_iff.mp finished
    subst hpending
    cases steps <;> simp [write]
  | @later turns work next last turn rest ih =>
    obtain ⟨steps, rfl⟩ : ∃ fewer, steps = fewer + 1 := ⟨steps - 1, by omega⟩
    obtain ⟨hwritten, htable⟩ := write_of_turn? turn steps
    rw [hwritten, htable]
    exact ih (by omega)

/-- The loop over pending work ends, and neither runs out of the steps that it is given nor leaves
anything pending. The text that it has written, which is the text that resolving writes, and the
table that it leaves are those that the recursive rules give, and the rules give no others. -/
theorem resolveType_recursively (resolver : Resolver) (scope : Scope) (table : ImportTable)
    (type : TypeRef) (keep : Nat) :
    ∃ text after,
      (∃ turns ≤ weight type,
        Ends resolver scope turns ⟨[], [.type type keep], table⟩ ⟨text, [], after⟩) ∧
      resolver.resolveType scope table type keep = (text, after) ∧
      ∀ text' after', Writes resolver scope table type keep text' after' ↔
        text' = text ∧ after' = after := by
  obtain ⟨turns, hturns, last, hends⟩ :=
    exists_ends resolver scope ⟨[], [.type type keep], table⟩
  have hweight : turns ≤ weight type := by simpa [pendingWeight] using hturns
  have hlast := hends.eq_write hweight
  refine ⟨_, _, ⟨turns, hweight, hlast ▸ hends⟩, rfl, ?_⟩
  intro text' after'
  have hresolve := resolveType_eq resolver scope table type keep
  rw [resolveType] at hresolve
  rw [hresolve]
  exact writes_iff resolver scope table type keep

end Resolver

end JvmSource
