import Mathlib.Tactic.Common
import JvmSource.Import.Table

/-!
# Bindings of an import table

What binding a simple name does to a table, said through `binding?`: a name that is free gets the
binding, a name that has it keeps it, a name that has another one is refused. So a table only ever
grows. `Extends` is the order of growth, and every decision that was made for a table is made
again for a table that extends it.
-/

namespace JvmSource.ImportTable

variable {table later : ImportTable} {simple other qualified : Text}

/-! ## Looking up what was inserted -/

private theorem lookup_cons_ne {first : Text × Text} (bindings : List (Text × Text))
    (h : simple ≠ first.1) : (first :: bindings).lookup simple = bindings.lookup simple := by
  have hbeq : (simple == first.1) = false := by simpa using h
  rw [List.lookup_cons, hbeq]

/-- What is looked up is one of the bindings. -/
theorem mem_of_lookup {bindings : List (Text × Text)}
    (h : bindings.lookup simple = some qualified) : (simple, qualified) ∈ bindings := by
  obtain ⟨before, after, rfl, -⟩ := List.lookup_eq_some_iff.mp h
  simp

/-- No name is bound in a list that starts after it. -/
private theorem lookup_eq_none_of_lt {bindings : List (Text × Text)}
    (h : ∀ b ∈ bindings, simple < b.1) : bindings.lookup simple = none := by
  refine List.lookup_eq_none_iff.mpr fun b hb => ?_
  have hne : simple ≠ b.1 := fun he => List.lt_irrefl b.1 (he ▸ h b hb)
  simpa using hne

/-- In an ordered list, membership is lookup. -/
theorem lookup_of_mem {bindings : List (Text × Text)}
    (hsorted : bindings.Pairwise (fun a b => a.1 < b.1)) (h : (simple, qualified) ∈ bindings) :
    bindings.lookup simple = some qualified := by
  induction bindings with
  | nil => simp at h
  | cons first rest ih =>
    obtain ⟨hfirst, hrest⟩ := List.pairwise_cons.mp hsorted
    rcases List.mem_cons.mp h with rfl | h
    · simp
    · have hne : simple ≠ first.1 := by
        intro he
        exact List.lt_irrefl first.1 (he ▸ hfirst (simple, qualified) h)
      rw [lookup_cons_ne rest hne, ih hrest h]

/-- An inserted name is bound to what it was inserted with, if it was free. -/
private theorem lookup_insert_self {bindings : List (Text × Text)}
    (hsorted : bindings.Pairwise (fun a b => a.1 < b.1)) (hfree : bindings.lookup simple = none) :
    (insert simple qualified bindings).lookup simple = some qualified := by
  induction bindings with
  | nil => simp [insert]
  | cons first rest ih =>
    obtain ⟨-, hrest⟩ := List.pairwise_cons.mp hsorted
    have hne : simple ≠ first.1 := by
      intro he
      simp [he] at hfree
    have hfree' : rest.lookup simple = none := by rw [← hfree, lookup_cons_ne rest hne]
    rw [insert]
    split
    · simp
    · split
      · rw [lookup_cons_ne _ hne, ih hrest hfree']
      · next hge hle => exact absurd (List.le_antisymm hle hge) hne

/-- Inserting a name leaves all other names as they were. -/
private theorem lookup_insert_ne (bindings : List (Text × Text)) (h : other ≠ simple) :
    (insert simple qualified bindings).lookup other = bindings.lookup other := by
  induction bindings with
  | nil => simp [insert, h]
  | cons first rest ih =>
    rw [insert]
    split
    · exact lookup_cons_ne (first :: rest) h
    · split
      · by_cases he : other = first.1
        · obtain ⟨name, target⟩ := first
          simp [he]
        · rw [lookup_cons_ne _ he, lookup_cons_ne _ he, ih]
      · rfl

/-- Inserting a name that is bound changes nothing. -/
private theorem insert_of_lookup {bindings : List (Text × Text)} {bound : Text}
    (hsorted : bindings.Pairwise (fun a b => a.1 < b.1))
    (h : bindings.lookup simple = some bound) : insert simple qualified bindings = bindings := by
  induction bindings with
  | nil => simp at h
  | cons first rest ih =>
    obtain ⟨hfirst, hrest⟩ := List.pairwise_cons.mp hsorted
    rw [insert]
    split
    · next hlt =>
      -- everything in the list is greater, so the name could not have been found
      have hall : ∀ b ∈ first :: rest, simple < b.1 := by
        intro b hb
        rcases List.mem_cons.mp hb with rfl | hb
        · exact hlt
        · exact List.lt_trans hlt (hfirst b hb)
      rw [lookup_eq_none_of_lt hall] at h
      exact absurd h (by simp)
    · split
      · next hlt =>
        have hne : simple ≠ first.1 := fun he => List.lt_irrefl first.1 (he ▸ hlt)
        rw [ih hrest (by rw [← h, lookup_cons_ne rest hne])]
      · rfl

/-! ## The three outcomes of binding -/

/-- No two names are bound to the same qualified name. -/
theorem nodup_qualifiedNames (table : ImportTable) : table.qualifiedNames.Nodup := by
  refine table.distinct.imp fun {a b} hlt => ?_
  rintro rfl
  exact List.lt_irrefl a hlt

/-- A table is given by its bindings: the names to import are in step with them, and in order. -/
theorem ext_bindings {a b : ImportTable} (h : a.bindings = b.bindings) : a = b := by
  have hperm : a.qualifiedNames.Perm b.qualifiedNames := by
    rw [List.perm_ext_iff_of_nodup a.nodup_qualifiedNames b.nodup_qualifiedNames]
    intro name
    rw [a.inStep, b.inStep, h]
  have hnames : a.qualifiedNames = b.qualifiedNames := by
    apply hperm.eq_of_pairwise _ a.distinct b.distinct
    intro name other _ _ hlt hgt
    exact absurd (List.lt_trans hlt hgt) (List.lt_irrefl name)
  cases a
  cases b
  simp only at h hnames
  subst h
  subst hnames
  rfl

/-- No binding occurs twice. -/
theorem nodup_bindings (table : ImportTable) : table.bindings.Nodup := by
  refine table.sorted.imp fun {a b} hlt => ?_
  rintro rfl
  exact List.lt_irrefl a.1 hlt

/-- A table is given by what it binds: the bindings are in order. -/
theorem ext_mem {a b : ImportTable} (h : ∀ binding, binding ∈ a.bindings ↔ binding ∈ b.bindings) :
    a = b := by
  have hperm : a.bindings.Perm b.bindings :=
    (List.perm_ext_iff_of_nodup a.nodup_bindings b.nodup_bindings).mpr h
  apply ext_bindings
  apply hperm.eq_of_pairwise _ a.sorted b.sorted
  intro binding other _ _ hlt hgt
  exact absurd (List.lt_trans hlt hgt) (List.lt_irrefl binding.1)

/-- The bindings of a table are those that are looked up in it. -/
theorem mem_bindings_iff {table : ImportTable} :
    (simple, qualified) ∈ table.bindings ↔ table.binding? simple = some qualified :=
  ⟨lookup_of_mem table.sorted, mem_of_lookup⟩

/-- A name that has the binding keeps it, and nothing changes. -/
theorem bind?_of_bound (h : table.binding? simple = some qualified) :
    table.bind? simple qualified = some table := by
  have hcan : table.canBind simple qualified = true := by simp [canBind, h]
  rw [bind?, dif_pos hcan]
  exact congrArg some (ext_bindings (insert_of_lookup table.sorted h))

/-- A name that has another binding is refused. -/
theorem bind?_of_taken (h : table.binding? simple = some other) (hne : other ≠ qualified) :
    table.bind? simple qualified = none := by
  have hcan : ¬ table.canBind simple qualified = true := by simp [canBind, h, hne]
  rw [bind?, dif_neg hcan]

/-- A name that is free gets the binding, and no other name is touched. -/
theorem bind?_of_free (h : table.binding? simple = none) (qualified : Text) :
    ∃ bound, table.bind? simple qualified = some bound ∧
      bound.binding? simple = some qualified ∧
      ∀ name, name ≠ simple → bound.binding? name = table.binding? name := by
  have hcan : table.canBind simple qualified = true := by simp [canBind, h]
  refine ⟨_, dif_pos hcan, lookup_insert_self table.sorted h, fun name hne => ?_⟩
  exact lookup_insert_ne table.bindings hne

/-- Binding is refused exactly when the name stands for something else. -/
theorem bind?_eq_none_iff :
    table.bind? simple qualified = none ↔
      ∃ bound, table.binding? simple = some bound ∧ bound ≠ qualified := by
  constructor
  · intro h
    cases hb : table.binding? simple with
    | none =>
      obtain ⟨bound, hbind, -⟩ := bind?_of_free hb qualified
      rw [h] at hbind
      exact absurd hbind (by simp)
    | some bound =>
      refine ⟨bound, rfl, fun he => ?_⟩
      rw [bind?_of_bound (he ▸ hb)] at h
      exact absurd h (by simp)
  · rintro ⟨bound, hb, hne⟩
    exact bind?_of_taken hb hne

/-- After a successful binding the name stands for what was asked. -/
theorem binding?_of_bind? (h : table.bind? simple qualified = some later) :
    later.binding? simple = some qualified := by
  cases hb : table.binding? simple with
  | none =>
    obtain ⟨bound, hbind, hself, -⟩ := bind?_of_free hb qualified
    rw [h] at hbind
    cases hbind
    exact hself
  | some bound =>
    by_cases he : bound = qualified
    · rw [bind?_of_bound (he ▸ hb)] at h
      cases h
      exact he ▸ hb
    · rw [bind?_of_taken hb he] at h
      exact absurd h (by simp)

/-- A binding adds at most the one that was asked for. -/
theorem mem_bindings_of_bind? (h : table.bind? simple qualified = some later) {b : Text × Text}
    (hb : b ∈ later.bindings) : b = (simple, qualified) ∨ b ∈ table.bindings := by
  unfold bind? at h
  split at h
  · cases h
    exact mem_insert hb
  · exact absurd h (by simp)

/-! ## Growth -/

/-- Whether every binding of a table is one of the later table as well. -/
def Extends (later table : ImportTable) : Prop :=
  ∀ simple qualified, table.binding? simple = some qualified →
    later.binding? simple = some qualified

theorem Extends.refl (table : ImportTable) : table.Extends table := fun _ _ h => h

theorem Extends.trans {a b c : ImportTable} (hcb : c.Extends b) (hba : b.Extends a) :
    c.Extends a := fun simple qualified h => hcb simple qualified (hba simple qualified h)

/-- Binding a name keeps all earlier bindings. -/
theorem extends_of_bind? (h : table.bind? simple qualified = some later) :
    later.Extends table := by
  intro name target hname
  cases hb : table.binding? simple with
  | none =>
    obtain ⟨bound, hbind, -, hothers⟩ := bind?_of_free hb qualified
    rw [h] at hbind
    cases hbind
    have hne : name ≠ simple := by
      rintro rfl
      rw [hb] at hname
      exact absurd hname (by simp)
    rw [hothers name hne, hname]
  | some bound =>
    by_cases he : bound = qualified
    · rw [bind?_of_bound (he ▸ hb)] at h
      cases h
      exact hname
    · rw [bind?_of_taken hb he] at h
      exact absurd h (by simp)

/-- A binding adds exactly the one that was asked for. -/
theorem mem_bindings_bind?_iff (h : table.bind? simple qualified = some later) {b : Text × Text} :
    b ∈ later.bindings ↔ b = (simple, qualified) ∨ b ∈ table.bindings := by
  constructor
  · exact mem_bindings_of_bind? h
  · rintro (rfl | hold)
    · exact mem_bindings_iff.mpr (binding?_of_bind? h)
    · exact mem_bindings_iff.mpr (extends_of_bind? h _ _ (mem_bindings_iff.mp hold))

/-- What was bound once is bound again without a change, however the table has grown. -/
theorem bind?_of_extends_bound {bound : ImportTable}
    (h : table.bind? simple qualified = some bound) (hlater : later.Extends bound) :
    later.bind? simple qualified = some later :=
  bind?_of_bound (hlater simple qualified (binding?_of_bind? h))

/-- What was refused once is refused again, however the table has grown. -/
theorem bind?_of_extends_refused (h : table.bind? simple qualified = none)
    (hlater : later.Extends table) : later.bind? simple qualified = none := by
  obtain ⟨bound, hb, hne⟩ := bind?_eq_none_iff.mp h
  exact bind?_of_taken (hlater simple bound hb) hne

end JvmSource.ImportTable
