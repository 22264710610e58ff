import Mathlib.Tactic.Common
import JvmSource.Proofs.Resolver.Offer

/-!
# Resolving by recursion

References are resolved from a list of what remains to be written. This module says what that list
stands for: `shorten` walks a reference by recursion and gives the reference that is written in its
place, as a tree, together with the table after it. `resolveType_eq` says that the text written from
the list is the text of that tree, and that the two tables are the same. Everything else about
resolving is stated of `shorten`.

Renaming may turn array dimensions into nested types, so the recursion is on `weight`, the number of
steps that the list is given; `weight_rename_le` is why renaming never uses them up.
-/

namespace JvmSource

/-! ## Array dimensions -/

namespace Suffix

/-- The text of one array dimension. -/
abbrev dimension : Text := ['[', ']']

/-- The pairs that are counted make up the whole text. -/
theorem emptyPairs?_eq_some_iff {text : Text} {dimensions : Nat} :
    emptyPairs? text = some dimensions ↔ text = Text.times dimensions dimension := by
  constructor
  · intro h
    -- the induction takes the pairs off one by one, as the function does
    induction text using emptyPairs?.induct generalizing dimensions with
    | case1 =>
      cases h
      rfl
    | case2 rest ih =>
      rw [emptyPairs?, Option.map_eq_some_iff] at h
      obtain ⟨inner, hinner, rfl⟩ := h
      rw [ih hinner]
      rfl
    | case3 text hnil hpair => exact absurd h (by simp [emptyPairs?])
  · intro h
    subst h
    induction dimensions with
    | zero => rfl
    | succ dimensions ih =>
      show emptyPairs? ('[' :: ']' :: Text.times dimensions dimension) = _
      rw [emptyPairs?, ih]
      rfl

/-- A suffix of empty pairs has one dimension for each. -/
theorem arrayDimensions_times (dimensions : Nat) :
    (verbatim (Text.times dimensions dimension)).arrayDimensions = dimensions := by
  rw [arrayDimensions, emptyPairs?_eq_some_iff.mpr rfl, Option.getD_some]

/-- A suffix with array dimensions is the text of these. -/
theorem eq_verbatim_of_arrayDimensions {suffix : Suffix} (h : suffix.arrayDimensions ≠ 0) :
    suffix = .verbatim (Text.times suffix.arrayDimensions dimension) := by
  cases suffix with
  | empty => exact absurd rfl h
  | plain bracket args => exact absurd rfl h
  | verbatim text =>
    cases hpairs : emptyPairs? text with
    | none => exact absurd (by rw [arrayDimensions, hpairs]; rfl) h
    | some dimensions =>
      have htext := emptyPairs?_eq_some_iff.mp hpairs
      rw [htext, arrayDimensions_times]

end Suffix

/-! ## What renaming does -/

namespace Policy

/-- The names of the native spelling of a path. -/
def nativeNames (policy : Policy) (type : TypeRef) : List Text :=
  match policy.nativeTypes.lookup type.path with
  | some native => Text.split '.' native
  | none => type.names

private theorem nativeType_eq (policy : Policy) (type : TypeRef) :
    policy.nativeType type =
      if (if policy.arrayType.isSome then type.suffix.arrayDimensions else 0) = 0 &&
          !type.suffix.isEmpty then type
      else
        match policy.arrayType with
        | some array =>
          wrapType array (if policy.arrayType.isSome then type.suffix.arrayDimensions else 0)
            (.mk (policy.nativeNames type) .empty)
        | none => .mk (policy.nativeNames type) .empty := rfl

/-- A bare path gets its native names. -/
theorem nativeType_of_bare (policy : Policy) {type : TypeRef}
    (h : type.suffix = .empty) :
    policy.nativeType type = .mk (policy.nativeNames type) .empty := by
  have hdim : type.suffix.arrayDimensions = 0 := by rw [h]; rfl
  have hempty : type.suffix.isEmpty = true := by rw [h]; rfl
  rw [nativeType_eq]
  cases policy.arrayType <;> simp [hdim, hempty, wrapType]

/-- A reference with a suffix keeps its form, unless the dialect writes arrays as types and the
suffix is array dimensions. -/
theorem nativeType_of_kept (policy : Policy) {type : TypeRef}
    (hempty : type.suffix ≠ .empty)
    (hdim : policy.arrayType = none ∨ type.suffix.arrayDimensions = 0) :
    policy.nativeType type = type := by
  have hempty' : type.suffix.isEmpty = false := by
    cases hsuffix : type.suffix with
    | empty => exact absurd hsuffix hempty
    | plain bracket args => rfl
    | verbatim text => rfl
  rw [nativeType_eq]
  rcases hdim with h | h <;> simp [h, hempty']

/-- In a dialect that writes arrays as types, array dimensions become nested types around the native
names. -/
theorem nativeType_of_array {policy : Policy} {array : Text} {type : TypeRef}
    (harray : policy.arrayType = some array) (hdim : type.suffix.arrayDimensions ≠ 0) :
    policy.nativeType type =
      wrapType array type.suffix.arrayDimensions (.mk (policy.nativeNames type) .empty) := by
  rw [nativeType_eq]
  simp [harray, hdim]

/-- Renaming leaves a reference alone, or gives a bare path its native names, or turns array
dimensions into nested types around the native names. -/
theorem nativeType_cases (policy : Policy) (type : TypeRef) :
    policy.nativeType type = type ∨
    (type.suffix = .empty ∧ policy.nativeType type = .mk (policy.nativeNames type) .empty) ∨
    ∃ array text, policy.arrayType = some array ∧ type.suffix = .verbatim text ∧
      text.length = 2 * type.suffix.arrayDimensions ∧
      policy.nativeType type =
        wrapType array type.suffix.arrayDimensions (.mk (policy.nativeNames type) .empty) := by
  by_cases hempty : type.suffix = .empty
  · exact Or.inr (Or.inl ⟨hempty, nativeType_of_bare policy hempty⟩)
  by_cases hdim : type.suffix.arrayDimensions = 0
  · exact Or.inl (nativeType_of_kept policy hempty (Or.inr hdim))
  cases harray : policy.arrayType with
  | none => exact Or.inl (nativeType_of_kept policy hempty (Or.inl harray))
  | some array =>
    have hlength : (Text.times type.suffix.arrayDimensions Suffix.dimension).length =
        2 * type.suffix.arrayDimensions := (Text.length_times _ _).trans (Nat.mul_comm _ 2)
    exact Or.inr (Or.inr ⟨array, _, rfl, Suffix.eq_verbatim_of_arrayDimensions hdim, hlength,
      nativeType_of_array harray hdim⟩)

/-- Without native spellings nothing is renamed. -/
theorem nativeType_of_none {policy : Policy} (htypes : policy.nativeTypes = [])
    (harray : policy.arrayType = none) (type : TypeRef) : policy.nativeType type = type := by
  rcases policy.nativeType_cases type with h | ⟨hsuffix, h⟩ | ⟨array, text, hsome, -⟩
  · exact h
  · obtain ⟨names, suffix⟩ := type
    rw [h, nativeNames, htypes]
    exact congrArg (TypeRef.mk names) hsuffix.symm
  · rw [harray] at hsome
    exact absurd hsome (by simp)

end Policy

namespace Resolver

theorem weight_eq (type : TypeRef) : weight type = suffixWeight type.suffix + 1 := by
  cases type
  rfl

/-- Each array dimension that becomes a type adds four to the weight, as the brackets and their
suffix did. -/
theorem weight_wrapType (array : Text) (dimensions : Nat) (element : TypeRef) :
    weight (Policy.wrapType array dimensions element) = weight element + 4 * dimensions := by
  induction dimensions generalizing element with
  | zero => rfl
  | succ dimensions ih =>
    rw [Policy.wrapType, ih]
    simp only [weight, suffixWeight, argsWeight]
    omega

/-- Renaming never makes a reference heavier. -/
theorem weight_nativeType_le (policy : Policy) (type : TypeRef) :
    weight (policy.nativeType type) ≤ weight type := by
  rcases policy.nativeType_cases type with h | ⟨-, h⟩ | ⟨array, text, -, hsuffix, hlength, h⟩
  · exact Nat.le_of_eq (congrArg weight h)
  · rw [h, weight_eq type]
    simp only [weight, suffixWeight]
    omega
  · rw [h, weight_wrapType, weight_eq type]
    simp only [weight, suffixWeight, hsuffix]
    rw [hsuffix] at hlength
    omega

/-- Renaming a reference never makes it heavier, qualified or not. -/
theorem weight_rename_le (resolver : Resolver) (type : TypeRef) :
    weight (resolver.rename type) ≤ weight type := by
  unfold rename
  split
  · exact weight_nativeType_le resolver.policy type
  · exact Nat.le_refl _

/-! ## The recursion -/

mutual

/-- The reference that is written in the place of a reference, and the table after that. A reference
that binds no class is written as renamed, and nothing inside it is looked at. -/
def shorten (resolver : Resolver) (scope : Scope) (table : ImportTable) (type : TypeRef)
    (keep : Nat) : TypeRef × ImportTable :=
  match resolver.bindClass? scope table (resolver.rename type) keep with
  | none => (resolver.rename type, table)
  | some (omitted, bound) =>
    let (suffix, after) := resolver.shortenSuffix scope bound (resolver.rename type).suffix
    (.mk ((resolver.rename type).names.drop omitted) suffix, after)
termination_by weight type
decreasing_by
  have := weight_rename_le resolver type
  rw [weight_eq] at this
  omega

/-- The suffix that is written in the place of a suffix: only an argument list changes. -/
def shortenSuffix (resolver : Resolver) (scope : Scope) (table : ImportTable) :
    Suffix → Suffix × ImportTable
  | .plain bracket args =>
    let (args, after) := resolver.shortenArgs scope table args
    (.plain bracket args, after)
  | .empty => (.empty, table)
  | .verbatim text => (.verbatim text, table)
termination_by suffix => suffixWeight suffix
decreasing_by
  simp only [suffixWeight]
  omega

/-- The arguments that are written in the place of arguments, from left to right. -/
def shortenArgs (resolver : Resolver) (scope : Scope) (table : ImportTable) :
    List TypeArg → List TypeArg × ImportTable
  | [] => ([], table)
  | .mk type nullable :: args =>
    let (type, middle) := resolver.shorten scope table type 1
    let (args, after) := resolver.shortenArgs scope middle args
    (.mk type nullable :: args, after)
termination_by args => argsWeight args
decreasing_by
  all_goals simp only [argsWeight]
  all_goals omega

end

/-- A reference is written as renamed, or it offers a binding that the table accepts, and its path
is cut down and its arguments are resolved after that. -/
theorem shorten_cases (resolver : Resolver) (scope : Scope) (table : ImportTable) (type : TypeRef)
    (keep : Nat) :
    resolver.shorten scope table type keep = (resolver.rename type, table) ∨
    ∃ (offer : Offer) (bound : ImportTable),
      resolver.offer? scope (resolver.rename type) keep = some offer ∧
      table.bind? offer.simple offer.qualified = some bound ∧
      resolver.shorten scope table type keep =
        (.mk ((resolver.rename type).names.drop offer.omitted)
            (resolver.shortenSuffix scope bound (resolver.rename type).suffix).1,
          (resolver.shortenSuffix scope bound (resolver.rename type).suffix).2) := by
  rw [shorten]
  cases hbind : resolver.bindClass? scope table (resolver.rename type) keep with
  | none => exact Or.inl rfl
  | some found =>
    obtain ⟨omitted, bound⟩ := found
    rw [bindClass?_eq, Option.bind_eq_some_iff] at hbind
    obtain ⟨offer, hoffer, hbind⟩ := hbind
    obtain ⟨bound', hbind, heq⟩ := Option.map_eq_some_iff.mp hbind
    cases heq
    exact Or.inr ⟨offer, bound, hoffer, hbind, rfl⟩

/-- Each argument is resolved with one of the tables on the way. -/
theorem mem_shortenArgs {resolver : Resolver} {scope : Scope} {table : ImportTable}
    {args : List TypeArg} {written : TypeArg}
    (h : written ∈ (resolver.shortenArgs scope table args).1) :
    ∃ arg ∈ args, ∃ between,
      written = .mk (resolver.shorten scope between arg.type 1).1 arg.nullable := by
  induction args generalizing table with
  | nil => simp [shortenArgs] at h
  | cons arg args ih =>
    obtain ⟨type, nullable⟩ := arg
    rw [shortenArgs] at h
    rcases List.mem_cons.mp h with rfl | h
    · exact ⟨.mk type nullable, by simp, table, rfl⟩
    · obtain ⟨arg, harg, between, hwritten⟩ := ih h
      exact ⟨arg, by simp [harg], between, hwritten⟩

/-- Resolving arguments keeps their number. -/
theorem length_shortenArgs (resolver : Resolver) (scope : Scope) (table : ImportTable)
    (args : List TypeArg) :
    (resolver.shortenArgs scope table args).1.length = args.length := by
  induction args generalizing table with
  | nil => simp [shortenArgs]
  | cons arg args ih =>
    obtain ⟨type, nullable⟩ := arg
    simp [shortenArgs, ih]

/-! ## What the list of pending work stands for -/

/-- What an argument leaves to be written. -/
def pendingArg (arg : TypeArg) : List Pending :=
  .type arg.type 1 :: if arg.nullable then [.text ['?']] else []

/-- What an argument list leaves to be written, in the order of the text. -/
def pendingArgs : List TypeArg → List Pending
  | [] => []
  | arg :: args => pendingArg arg ++ args.flatMap fun arg => .text [',', ' '] :: pendingArg arg

/-- An argument that is pushed stands in front of what was pending, behind a comma unless it is the
first one. -/
theorem pushArg_eq (pending : List Pending) (arg : TypeArg) (position : Nat) :
    pushArg pending arg position =
      (if 0 < position then [.text [',', ' ']] else []) ++ pendingArg arg ++ pending := by
  cases hnullable : arg.nullable <;> by_cases hposition : 0 < position <;>
    simp [pushArg, pendingArg, hnullable, hposition]

/-- Arguments that are pushed from the last one to the first stand in their own order. -/
theorem pushArgs_eq (args : List TypeArg) (pending : List Pending) :
    pushArgs args pending = pendingArgs args ++ pending := by
  -- behind the first argument, all have a comma
  have hothers (args : List TypeArg) (start : Nat) :
      (args.zipIdx (start + 1)).foldr (fun arg pending => pushArg pending arg.1 arg.2) pending =
        args.flatMap (fun arg => .text [',', ' '] :: pendingArg arg) ++ pending := by
    induction args generalizing start with
    | nil => rfl
    | cons arg args ih =>
      rw [List.zipIdx_cons, List.foldr_cons, ih, pushArg_eq, if_pos (Nat.succ_pos start),
        List.flatMap_cons]
      simp
  rw [pushArgs, List.foldl_reverse]
  cases args with
  | nil => rfl
  | cons arg args =>
    show pushArg ((args.zipIdx 1).foldr _ pending) arg 0 = _
    rw [hothers args 0, pushArg_eq, if_neg (Nat.lt_irrefl 0), pendingArgs, List.nil_append,
      List.append_assoc]

/-- The number of steps that pending work takes at most. -/
def pendingWeight : List Pending → Nat
  | [] => 0
  | .text _ :: pending => 1 + pendingWeight pending
  | .type type _ :: pending => weight type + pendingWeight pending

/-- What pending work writes, and the table after that. -/
def writeAll (resolver : Resolver) (scope : Scope) :
    List Pending → ImportTable → Text × ImportTable
  | [], table => ([], table)
  | .text text :: pending, table =>
    let (more, after) := resolver.writeAll scope pending table
    (text ++ more, after)
  | .type type keep :: pending, table =>
    let (written, middle) := resolver.shorten scope table type keep
    let (more, after) := resolver.writeAll scope pending middle
    (written.print ++ more, after)

theorem pendingWeight_append (first second : List Pending) :
    pendingWeight (first ++ second) = pendingWeight first + pendingWeight second := by
  induction first with
  | nil => simp [pendingWeight]
  | cons item first ih =>
    cases item <;> simp only [List.cons_append, pendingWeight, ih] <;> omega

/-- Between two arguments stand a comma and a space. -/
theorem pendingArgs_cons_cons (arg arg' : TypeArg) (args : List TypeArg) :
    pendingArgs (arg :: arg' :: args) =
      pendingArg arg ++ .text [',', ' '] :: pendingArgs (arg' :: args) := by
  simp [pendingArgs]

/-- An argument takes a step more than its type at most, for the question mark. -/
theorem pendingWeight_pendingArg_le (type : TypeRef) (nullable : Bool) :
    pendingWeight (pendingArg (.mk type nullable)) ≤ weight type + 1 := by
  cases nullable <;> simp [pendingArg, pendingWeight, TypeArg.type, TypeArg.nullable]

/-- The arguments take no more steps than they weigh. -/
theorem pendingWeight_pendingArgs_le (args : List TypeArg) :
    pendingWeight (pendingArgs args) ≤ argsWeight args := by
  induction args with
  | nil => simp [pendingArgs, pendingWeight]
  | cons arg args ih =>
    obtain ⟨type, nullable⟩ := arg
    have harg := pendingWeight_pendingArg_le type nullable
    cases args with
    | nil =>
      simp only [pendingArgs, List.flatMap_nil, List.append_nil, argsWeight]
      omega
    | cons arg' args =>
      rw [pendingArgs_cons_cons, pendingWeight_append]
      simp only [argsWeight, pendingWeight] at ih ⊢
      omega

/-- Work that is pending behind other work is done with the table that the other work leaves. -/
theorem writeAll_append (resolver : Resolver) (scope : Scope) (first second : List Pending)
    (table : ImportTable) :
    resolver.writeAll scope (first ++ second) table =
      ((resolver.writeAll scope first table).1 ++
          (resolver.writeAll scope second (resolver.writeAll scope first table).2).1,
        (resolver.writeAll scope second (resolver.writeAll scope first table).2).2) := by
  induction first generalizing table with
  | nil => simp [writeAll]
  | cons item first ih => cases item <;> simp [writeAll, ih]

/-- The pending work of an argument writes the argument that takes its place. -/
theorem writeAll_pendingArg (resolver : Resolver) (scope : Scope) (type : TypeRef)
    (nullable : Bool) (table : ImportTable) :
    resolver.writeAll scope (pendingArg (.mk type nullable)) table =
      ((TypeArg.mk (resolver.shorten scope table type 1).1 nullable).print,
        (resolver.shorten scope table type 1).2) := by
  cases nullable <;>
    simp [pendingArg, writeAll, TypeArg.type, TypeArg.nullable, TypeArg.print]

/-- The pending work of an argument list writes the arguments that take its place. -/
theorem writeAll_pendingArgs (resolver : Resolver) (scope : Scope) (args : List TypeArg)
    (table : ImportTable) :
    resolver.writeAll scope (pendingArgs args) table =
      (TypeArg.printAll (resolver.shortenArgs scope table args).1,
        (resolver.shortenArgs scope table args).2) := by
  induction args generalizing table with
  | nil => simp [pendingArgs, writeAll, shortenArgs, TypeArg.printAll]
  | cons arg args ih =>
    obtain ⟨type, nullable⟩ := arg
    cases args with
    | nil =>
      simp only [pendingArgs, List.flatMap_nil, List.append_nil, writeAll_pendingArg]
      simp [shortenArgs, TypeArg.printAll]
    | cons arg' args =>
      obtain ⟨type', nullable'⟩ := arg'
      rw [pendingArgs_cons_cons, writeAll_append, writeAll_pendingArg, writeAll]
      simp only [ih]
      rw [shortenArgs]
      simp only [shortenArgs, TypeArg.printAll, List.cons_append, List.nil_append]

/-- The list of pending work is worked off completely when it is given the steps that it weighs. -/
theorem write_eq_writeAll (resolver : Resolver) (scope : Scope) {steps : Nat}
    {pending : List Pending} (h : pendingWeight pending ≤ steps) (table : ImportTable) :
    resolver.write scope steps pending table = resolver.writeAll scope pending table := by
  induction steps generalizing pending table with
  | zero =>
    -- every item weighs something, so nothing is pending
    cases pending with
    | nil => rfl
    | cons item pending =>
      cases item with
      | text text => simp only [pendingWeight] at h; omega
      | type type keep => simp only [pendingWeight, weight_eq] at h; omega
  | succ steps ih =>
    cases pending with
    | nil => rfl
    | cons item pending =>
      cases item with
      | text text =>
        simp only [pendingWeight] at h
        rw [write, writeAll, ih (by omega)]
      | type type keep =>
        simp only [pendingWeight] at h
        have hrename := weight_rename_le resolver type
        have hrest : pendingWeight pending ≤ steps := by rw [weight_eq] at h; omega
        rw [write, writeAll, shorten]
        cases hbind : resolver.bindClass? scope table (resolver.rename type) keep with
        | none => simp only [ih hrest]
        | some found =>
          obtain ⟨omitted, bound⟩ := found
          simp only
          cases hsuffix : (resolver.rename type).suffix with
          | empty => simp [ih hrest, shortenSuffix, TypeRef.print, Suffix.print]
          | verbatim text => simp [ih hrest, shortenSuffix, TypeRef.print, Suffix.print]
          | plain bracket args =>
            -- the arguments take the place of the type, and weigh less
            have hargs := pendingWeight_pendingArgs_le args
            have hsteps :
                pendingWeight (pushArgs args (.text [bracket.closing] :: pending)) ≤ steps := by
              rw [weight_eq, hsuffix, suffixWeight] at hrename
              rw [pushArgs_eq, pendingWeight_append, pendingWeight]
              omega
            simp only [ih hsteps]
            simp only [pushArgs_eq, writeAll_append, writeAll_pendingArgs, writeAll, shortenSuffix,
              TypeRef.print, Suffix.print]
            simp

/-- Resolving writes the text of the reference that takes the place of the given one. -/
theorem resolveType_eq (resolver : Resolver) (scope : Scope) (table : ImportTable)
    (type : TypeRef) (keep : Nat) :
    resolver.resolveType scope table type keep =
      ((resolver.shorten scope table type keep).1.print,
        (resolver.shorten scope table type keep).2) := by
  have hweight : pendingWeight [.type type keep] ≤ weight type := by simp [pendingWeight]
  rw [resolveType, write_eq_writeAll resolver scope hweight]
  simp [writeAll]

end Resolver

end JvmSource
