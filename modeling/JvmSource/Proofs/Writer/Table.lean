import Mathlib.Tactic.Common
import JvmSource.Proofs.Resolver.Requests
import JvmSource.Proofs.Writer.Imports

/-!
# The table of a writer

Of all calls only those that ask for references touch the table of a writer, and they do no more
than resolve them one after the other: `perform_eq` says so of one call, `exists_requests` of a
whole run. So whatever a run calls for, even several packages or texts that are no types, the names
in its table are paths with their last names, the two sides of the table are in step, and no binding
is lost.
-/

namespace JvmSource

namespace ImportTable

variable {table : ImportTable}

/-- Where simple names are the last names of what they stand for, no name is imported twice. -/
theorem perm_qualifiedNames
    (h : ∀ binding ∈ table.bindings, Text.lastSegment binding.2 = binding.1) :
    table.qualifiedNames.Perm (table.bindings.map Prod.snd) := by
  have hnodup : (table.bindings.map Prod.snd).Nodup := by
    refine List.Nodup.map_on ?_ table.nodup_bindings
    intro first hfirst second hsecond hsame
    have hsimple : first.1 = second.1 := by rw [← h first hfirst, ← h second hsecond, hsame]
    exact Prod.ext hsimple hsame
  rw [List.perm_ext_iff_of_nodup table.nodup_qualifiedNames hnodup]
  intro name
  rw [table.inStep, List.mem_map]
  constructor
  · intro ⟨simple, hbinding⟩
    exact ⟨(simple, name), hbinding, rfl⟩
  · intro ⟨binding, hbinding, hname⟩
    rw [← hname]
    exact ⟨binding.1, hbinding⟩

end ImportTable

/-- The references that a call asks for. -/
def Call.requests (scope : Scope) : Call → List Request
  | .reference type keep => [⟨scope, type, keep⟩]
  | .references types keep => types.map fun type => ⟨scope, type, keep⟩
  | .printClass type => [⟨scope, type, 1⟩]
  | _ => []

theorem Resolver.table_resolveAll (resolver : Resolver) (scope : Scope) (keep : Nat)
    (types : List Text) (table : ImportTable) :
    (resolver.resolveAll scope keep types table).2 =
      resolver.resolveEach table (types.map fun type => ⟨scope, type, keep⟩) := by
  induction types generalizing table with
  | nil => rfl
  | cons type types ih => exact ih _

namespace Writer

variable {writer : Writer}

/-! ## Runs -/

/-- All that a call can do: it resolves the references that it asks for, declares a package, and
lays out text. -/
theorem perform_eq (writer : Writer) (call : Call) :
    ∃ package layout, (writer.perform call).2 =
      { writer with
        scope := { writer.scope with package }
        table := writer.resolver.resolveEach writer.table (call.requests writer.scope)
        layout } := by
  cases call with
  | references types keep =>
    refine ⟨writer.scope.package, writer.layout, ?_⟩
    have htable := writer.resolver.table_resolveAll writer.scope keep types writer.table
    exact congrArg (fun table => { writer with table }) htable
  | docComment text args =>
    -- these calls decide whether they write more than a line end, or anything at all
    simp only [perform, docComment]
    split <;> exact ⟨_, _, rfl⟩
  | override wanted => cases wanted <;> exact ⟨_, _, rfl⟩
  | overrideInherited wanted => cases wanted <;> exact ⟨_, _, rfl⟩
  | serial =>
    simp only [perform, serial]
    split <;> exact ⟨_, _, rfl⟩
  | _ => exact ⟨_, _, rfl⟩

/-- A call changes the table as its requests do. -/
theorem table_perform (writer : Writer) (call : Call) :
    (writer.perform call).2.table =
      writer.resolver.resolveEach writer.table (call.requests writer.scope) := by
  obtain ⟨package, layout, heq⟩ := writer.perform_eq call
  rw [heq]

/-- No call changes the resolver. -/
theorem resolver_perform (writer : Writer) (call : Call) :
    (writer.perform call).2.resolver = writer.resolver := by
  obtain ⟨package, layout, heq⟩ := writer.perform_eq call
  rw [heq]

/-- A run resolves one reference after the other. -/
theorem exists_requests (writer : Writer) (calls : List Call) :
    ∃ requests, (writer.run calls).2.table = writer.resolver.resolveEach writer.table requests := by
  induction calls generalizing writer with
  | nil => exact ⟨[], rfl⟩
  | cons call calls ih =>
    obtain ⟨requests, hrequests⟩ := ih (writer.perform call).2
    refine ⟨call.requests writer.scope ++ requests, ?_⟩
    rw [Resolver.resolveEach_append, ← table_perform, ← resolver_perform writer call]
    exact hrequests

/-- A run keeps all earlier bindings. -/
theorem extends_table_run (writer : Writer) (calls : List Call) :
    (writer.run calls).2.table.Extends writer.table := by
  obtain ⟨requests, hrequests⟩ := writer.exists_requests calls
  rw [hrequests]
  exact writer.resolver.extends_resolveEach writer.table requests

/-! ## Writers of files -/

/-- A new writer has the policy of a dialect and an empty table. -/
theorem exists_dialect_of_create {path : Text} {config : Config} {order : ImportOrder}
    (hcreate : create path config order = .ok writer) :
    ∃ dialect, writer.resolver.policy = Dialect.policy dialect ∧ writer.table = .empty := by
  cases hpath : Dialect.forPath path with
  | error fault =>
    simp only [create, hpath, Except.mapError, bind, Except.bind] at hcreate
    exact absurd hcreate (by simp)
  | ok found =>
    obtain ⟨dialect, className⟩ := found
    obtain ⟨-, hpolicy, -, htable, -⟩ := of_create hpath hcreate
    exact ⟨dialect, hpolicy, htable⟩

/-- Every binding in the table of a file stands for a class. -/
theorem names_of_run {path : Text} {config : Config} {order : ImportOrder}
    (hcreate : create path config order = .ok writer) (calls : List Call) :
    ∀ binding ∈ (writer.run calls).2.table.bindings,
      ∃ scope : Scope, scope.Names binding.1 binding.2 := by
  obtain ⟨dialect, hpolicy, htable⟩ := exists_dialect_of_create hcreate
  have hnative : writer.resolver.policy.NativePaths := by
    rw [hpolicy]
    exact dialect.nativePaths
  obtain ⟨requests, hrequests⟩ := writer.exists_requests calls
  rw [hrequests, htable]
  intro binding hbinding
  rcases (Resolver.mem_bindings_resolveEach ..).mp hbinding with hold | ⟨inner, offer, hshortens, rfl⟩
  · exact absurd hold List.not_mem_nil
  · exact hshortens.names hnative

/-- At any time in any run, the table of a file binds the last names of paths of at least two names;
what is to be imported is what is bound, and nothing is imported twice; the next call loses no
binding, and neither does anything later. -/
theorem table_of_run {path : Text} {config : Config} {order : ImportOrder}
    (hcreate : create path config order = .ok writer) (calls : List Call) :
    let state := (writer.run calls).2
    (∀ simple qualified, (simple, qualified) ∈ state.table.bindings →
      ∃ names, IsPath names ∧ 2 ≤ names.length ∧ names.getLast? = some simple ∧
        qualified = Text.dotted names) ∧
    (∀ qualified, qualified ∈ state.table.qualifiedNames ↔
      ∃ simple, (simple, qualified) ∈ state.table.bindings) ∧
    state.table.size = state.table.bindings.length ∧
    (∀ call, (state.perform call).2.table.Extends state.table) ∧
    ∀ later, (state.run later).2.table.Extends state.table := by
  intro state
  have hnames := names_of_run hcreate calls
  refine ⟨?_, state.table.inStep, ?_, ?_, state.extends_table_run⟩
  · intro simple qualified hbinding
    obtain ⟨scope, ⟨front, hfront, haccepts, hqualified⟩, -⟩ := hnames _ hbinding
    refine ⟨front ++ [simple], ⟨by simp, ?_⟩, ?_, by simp, hqualified⟩
    · intro name hname
      rcases List.mem_append.mp hname with hname | hname
      · exact hfront.accepts name hname
      · rw [List.mem_singleton.mp hname]
        exact haccepts
    · have hlength := List.length_pos_of_ne_nil hfront.ne_nil
      rw [List.length_append, List.length_singleton]
      omega
  · -- no two bindings have one qualified name, as each ends with its simple name
    have hlast : ∀ binding ∈ state.table.bindings, Text.lastSegment binding.2 = binding.1 := by
      intro binding hbinding
      obtain ⟨scope, hscope⟩ := hnames binding hbinding
      exact hscope.lastSegment_eq
    rw [ImportTable.size, (ImportTable.perm_qualifiedNames hlast).length_eq, List.length_map]
  · intro call
    rw [table_perform]
    exact state.resolver.extends_resolveEach state.table _

/-- A file whose package is declared twice, with array dimensions that become nested types, a member
chain, a text that is no type and a name that is taken. -/
theorem table_of_run_packages :
    let calls : List Call := [.package "a".toList, .reference "java.lang.Integer[][]".toList 1,
      .references ["a.B.C".toList, "..".toList] 2, .package "b".toList,
      .printClass "b.Int<c.D>".toList]
    let bindings := [("Array".toList, "kotlin.Array".toList), ("B".toList, "a.B".toList),
      ("Int".toList, "kotlin.Int".toList)]
    ∃ writer,
      create "src/Main.kt".toList {} .lexical = .ok writer ∧
      let state := (writer.run calls).2
      state.table.bindings = bindings ∧
      (∀ simple qualified, (simple, qualified) ∈ state.table.bindings →
        ∃ names, IsPath names ∧ 2 ≤ names.length ∧ names.getLast? = some simple ∧
          qualified = Text.dotted names) ∧
      (∀ qualified, qualified ∈ state.table.qualifiedNames ↔
        ∃ simple, (simple, qualified) ∈ state.table.bindings) ∧
      state.table.size = state.table.bindings.length ∧
      (∀ call, (state.perform call).2.table.Extends state.table) ∧
      ∀ later, (state.run later).2.table.Extends state.table := by
  intro calls bindings
  obtain ⟨writer, hcreate, hbindings⟩ : ∃ writer,
      create "src/Main.kt".toList {} .lexical = .ok writer ∧
        (writer.run calls).2.table.bindings = bindings := by
    refine ⟨_, rfl, ?_⟩
    decide +kernel
  exact ⟨writer, hcreate, hbindings, table_of_run hcreate calls⟩

end Writer

end JvmSource
