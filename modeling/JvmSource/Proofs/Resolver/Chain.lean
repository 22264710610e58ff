import Mathlib.Tactic.Common
import JvmSource.Proofs.Resolver.Lossless

/-!
# Members of a class

A reference may go on after its class, with a field or a nested class, and then more than one name
of it is to be written. The number of names tells where the class stands in the path. Where no name
is left in front of it, or none is to be written, there is no class to bind and the path is written
in full. `resolve_chain` says for each number what is bound and what is written.
-/

namespace JvmSource

/-- Whether a class has to be written in full: it is called like the class of the file without being
it, or its simple name stands for another one. -/
def Scope.Refuses (scope : Scope) (table : ImportTable) (simple qualified : Text) : Prop :=
  (simple = scope.className ∧ scope.isSelf qualified = false) ∨
    ∃ other, table.binding? simple = some other ∧ other ≠ qualified

namespace Resolver

variable {resolver : Resolver} {scope : Scope} {table : ImportTable} {names : List Text} {keep : Nat}

/-- The place in a path from which on a number of its names stand. -/
theorem exists_split (hkeep : 0 < keep) (hlength : keep < names.length) :
    ∃ front simple members, names = front ++ simple :: members ∧ front ≠ [] ∧
      members.length + 1 = keep := by
  have hposition : names.length - keep < names.length := by omega
  refine ⟨names.take (names.length - keep), names[names.length - keep],
    names.drop (names.length - keep + 1), ?_, ?_, ?_⟩
  · rw [← List.drop_eq_getElem_cons hposition, List.take_append_drop]
  · rw [← List.length_pos_iff, List.length_take]
    omega
  · rw [List.length_drop]
    omega

/-- Where the names from a class on are to be written, that class is bound unless it is refused. -/
theorem bindClass?_of_split (scope : Scope) (table : ImportTable) {type : TypeRef}
    {front members : List Text} {simple qualified : Text}
    (hexcludes : resolver.excludes type = false) (hnames : type.names = front ++ simple :: members)
    (hfront : front ≠ []) (hqualified : qualified = Text.dotted (front ++ [simple])) :
    (scope.Refuses table simple qualified →
      resolver.bindClass? scope table type (members.length + 1) = none) ∧
    (¬ scope.Refuses table simple qualified →
      ∃ bound, table.bind? simple qualified = some bound ∧
        resolver.bindClass? scope table type (members.length + 1) =
          some (if scope.isSelf qualified = true ∧ members ≠ [] then front.length + 1
            else front.length, bound)) := by
  rw [bindClass?_eq, offer?_of_split hexcludes hnames hfront, ← hqualified]
  constructor
  · -- a refusal is the name of the own class or a name that is taken
    rintro (hclass | htaken)
    · rw [if_pos hclass, Option.bind_none]
    · have hbind := ImportTable.bind?_eq_none_iff.mpr htaken
      split
      · rfl
      · rw [Option.bind_some, hbind, Option.map_none]
  · intro hfree
    obtain ⟨hclass, htaken⟩ := not_or.mp hfree
    have hsome : table.bind? simple qualified ≠ none := mt ImportTable.bind?_eq_none_iff.mp htaken
    obtain ⟨bound, hbind⟩ := Option.ne_none_iff_exists'.mp hsome
    refine ⟨bound, hbind, ?_⟩
    rw [if_neg hclass, Option.bind_some, hbind, Option.map_some]

/-! ## Paths without a suffix -/

/-- A path is written in full where no class is bound, and from the class on where one is. -/
theorem resolve_dotted (hkeeps : resolver.KeepsNames) (hnames : IsPath names)
    (hlength : 2 ≤ names.length) :
    resolver.resolve scope table (Text.dotted names) keep =
      match resolver.bindClass? scope table (.mk names .empty) keep with
      | none => (Text.dotted names, table)
      | some (omitted, bound) => (Text.dotted (names.drop omitted), bound) := by
  have hdot : (Text.dotted names).contains '.' = true := by simpa using Text.dot_mem_dotted hlength
  have hprint : ∀ names : List Text, (TypeRef.mk names .empty).print = Text.dotted names :=
    fun names => List.append_nil (Text.dotted names)
  have hparse : TypeRef.parse? (Text.dotted names) = some (.mk names .empty) := by
    rw [← hprint]
    exact TypeRef.parse?_print (.bare hnames)
  rw [resolve, hdot, hparse]
  show resolver.resolveType scope table (.mk names .empty) keep = _
  rw [resolveType_eq, shorten, hkeeps]
  cases resolver.bindClass? scope table (.mk names .empty) keep with
  | none => simp only [hprint]
  | some found => simp only [TypeRef.names, TypeRef.suffix, shortenSuffix_empty, hprint]

/-- Where nothing is renamed or excluded, a path is written in full if none or all of its names are
to be written, or if the name from which on they are to be written is that of a class which is
refused. Otherwise that class is bound and nothing else, and the path is written from there on,
without the name of the class of the file in front of its members. -/
theorem resolve_chain {dialect : Dialect} (hdialect : dialect ≠ .kotlin)
    (hpolicy : resolver.policy = dialect.policy) (hexcluded : resolver.excluded = none)
    (scope : Scope) (table : ImportTable) (hnames : IsPath names) (hlength : 2 ≤ names.length)
    (keep : Nat) :
    (keep = 0 ∨ names.length ≤ keep →
      resolver.resolve scope table (Text.dotted names) keep = (Text.dotted names, table)) ∧
    (0 < keep ∧ keep < names.length →
      ∃ front simple members qualified, names = front ++ simple :: members ∧
        members.length + 1 = keep ∧ qualified = Text.dotted (front ++ [simple]) ∧
        (scope.Refuses table simple qualified →
          resolver.resolve scope table (Text.dotted names) keep = (Text.dotted names, table)) ∧
        (¬ scope.Refuses table simple qualified →
          ∃ bound : ImportTable,
            resolver.resolve scope table (Text.dotted names) keep =
              (if scope.isSelf qualified = true ∧ 2 ≤ keep then Text.dotted members
                else Text.dotted (simple :: members), bound) ∧
            bound.binding? simple = some qualified ∧
            ∀ binding, binding ∈ bound.bindings ↔
              binding = (simple, qualified) ∨ binding ∈ table.bindings)) := by
  have hkeeps := keepsNames_of_policy hdialect hpolicy
  have hexcludes : resolver.excludes (.mk names .empty) = false := by simp [excludes, hexcluded]
  rw [resolve_dotted hkeeps hnames hlength]
  constructor
  · intro houtside
    -- no name is left to be the class, or none in front of it
    have hnone : resolver.bindClass? scope table (.mk names .empty) keep = none := by
      unfold bindClass?
      rw [if_pos]
      rcases houtside with hzero | hlong
      · simp [hzero]
      · simp [TypeRef.names, hlong]
    rw [hnone]
  · rintro ⟨hkeep, hinside⟩
    obtain ⟨front, simple, members, rfl, hfront, rfl⟩ := exists_split hkeep hinside
    obtain ⟨hrefused, hbound⟩ := bindClass?_of_split scope table hexcludes rfl hfront rfl
    refine ⟨front, simple, members, _, rfl, rfl, rfl, ?_, ?_⟩
    · intro hrefuses
      rw [hrefused hrefuses]
    · intro hrefuses
      obtain ⟨bound, hbind, hclass⟩ := hbound hrefuses
      refine ⟨bound, ?_, ImportTable.binding?_of_bind? hbind,
        fun binding => ImportTable.mem_bindings_bind?_iff hbind⟩
      -- the own class is left out in front of its members, if there are any
      have hmembers : members ≠ [] ↔ 2 ≤ members.length + 1 := by
        rw [← List.length_pos_iff]
        omega
      rw [hclass]
      simp only [hmembers]
      split
      · rw [List.drop_length_add_append, List.drop_one, List.tail_cons]
      · rw [List.drop_left]

/-- A column of the table that a file is written for is named without the class of the file. -/
theorem resolve_chain_column :
    let names := ["com".toList, "acme".toList, "Table".toList, "TABLE".toList, "COLUMN".toList]
    IsPath names ∧ 2 ≤ names.length ∧
      ∃ bound : ImportTable,
        resolve ⟨Dialect.java.policy, none⟩ ⟨"Table".toList, some "com.acme".toList⟩ .empty
          (Text.dotted names) 3 = ("TABLE.COLUMN".toList, bound) ∧
        bound.binding? "Table".toList = some "com.acme.Table".toList := by
  intro names
  have hnames : IsPath names := ⟨by decide, by decide⟩
  have hlength : 2 ≤ names.length := by decide
  have hjava : Dialect.java ≠ .kotlin := by decide
  have hpolicy : Resolver.policy ⟨Dialect.java.policy, none⟩ = Dialect.java.policy := rfl
  obtain ⟨front, simple, members, qualified, hsplit, hkeep, rfl, -, hbound⟩ :=
    (resolve_chain hjava hpolicy rfl ⟨"Table".toList, some "com.acme".toList⟩ .empty hnames hlength
      3).2 ⟨by decide, by decide⟩
  have hparts : ["com".toList, "acme".toList] = front ∧
      ["Table".toList, "TABLE".toList, "COLUMN".toList] = simple :: members :=
    List.append_inj' hsplit hkeep.symm
  obtain ⟨rfl, htail⟩ := hparts
  cases htail
  have hself : Scope.isSelf ⟨"Table".toList, some "com.acme".toList⟩ "com.acme.Table".toList := rfl
  obtain ⟨bound, hresolve, hbinding, -⟩ := hbound <| by
    rintro (⟨-, hother⟩ | ⟨other, hother, -⟩)
    · exact absurd (hself.symm.trans hother) (by decide)
    · exact absurd hother (by simp [ImportTable.binding?, ImportTable.empty])
  exact ⟨hnames, hlength, bound, hresolve, hbinding⟩

end Resolver

end JvmSource
