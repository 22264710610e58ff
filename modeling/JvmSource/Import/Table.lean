import JvmSource.Text.Order

/-!
# The import table

The import table of a file says which qualified name each simple name stands for. A simple name is
bound once: binding it to another qualified name is refused, and binding it again to the same one
changes nothing. The bindings are kept in the order of the simple names, and the names to import are
kept beside them in an order of their own. Each binding changes both, so that they stay in step and
a table is given by what it binds.
-/

namespace JvmSource

/-- The bindings of simple names to qualified names, ordered by simple name, and the qualified names
that are to be imported, in order. -/
structure ImportTable where
  bindings : List (Text × Text)
  qualifiedNames : List Text
  sorted : bindings.Pairwise (fun a b => a.1 < b.1) := by simp
  distinct : qualifiedNames.Pairwise (· < ·) := by simp
  inStep : ∀ name, name ∈ qualifiedNames ↔ ∃ simple, (simple, name) ∈ bindings := by simp

namespace ImportTable

/-- The table without bindings. -/
def empty : ImportTable where
  bindings := []
  qualifiedNames := []

/-- Adds a binding at its place in the order; a simple name that is bound keeps its binding. -/
def insert (simple qualified : Text) : List (Text × Text) → List (Text × Text)
  | [] => [(simple, qualified)]
  | first :: rest =>
    if simple < first.1 then (simple, qualified) :: first :: rest
    else if first.1 < simple then first :: insert simple qualified rest
    else first :: rest

theorem mem_insert {simple qualified : Text} {bindings : List (Text × Text)} {b : Text × Text}
    (h : b ∈ insert simple qualified bindings) : b = (simple, qualified) ∨ b ∈ bindings := by
  induction bindings with
  | nil => exact Or.inl (by simpa [insert] using h)
  | cons first rest ih =>
    rw [insert] at h
    split at h
    · simpa using h
    · split at h
      · rcases List.mem_cons.mp h with h | h
        · exact Or.inr (by simp [h])
        · exact (ih h).imp_right (List.mem_cons_of_mem _)
      · exact Or.inr h

/-- Inserting a binding keeps the bindings in order. -/
theorem sorted_insert (simple qualified : Text) {bindings : List (Text × Text)}
    (h : bindings.Pairwise (fun a b => a.1 < b.1)) :
    (insert simple qualified bindings).Pairwise (fun a b => a.1 < b.1) := by
  induction bindings with
  | nil => simp [insert]
  | cons first rest ih =>
    obtain ⟨hfirst, hrest⟩ := List.pairwise_cons.mp h
    rw [insert]
    split
    · next hlt =>
      refine List.pairwise_cons.mpr ⟨fun b hb => ?_, h⟩
      rcases List.mem_cons.mp hb with rfl | hb
      · exact hlt
      · exact List.lt_trans hlt (hfirst b hb)
    · split
      · next hlt =>
        refine List.pairwise_cons.mpr ⟨fun b hb => ?_, ih hrest⟩
        rcases mem_insert hb with rfl | hb
        · exact hlt
        · exact hfirst b hb
      · exact h

theorem mem_insert_of_mem (simple qualified : Text) {bindings : List (Text × Text)} {b : Text × Text}
    (h : b ∈ bindings) : b ∈ insert simple qualified bindings := by
  induction bindings with
  | nil => exact absurd h List.not_mem_nil
  | cons first rest ih =>
    rw [insert]
    split
    · exact List.mem_cons_of_mem _ h
    · split
      · rcases List.mem_cons.mp h with rfl | h
        · exact List.mem_cons_self ..
        · exact List.mem_cons_of_mem _ (ih h)
      · exact h

/-- A simple name that is free or has the binding has it after insertion. -/
theorem mem_insert_self {simple qualified : Text} {bindings : List (Text × Text)}
    (h : (bindings.lookup simple).all (· == qualified) = true) :
    (simple, qualified) ∈ insert simple qualified bindings := by
  induction bindings with
  | nil => exact List.mem_singleton.mpr rfl
  | cons first rest ih =>
    obtain ⟨name, target⟩ := first
    rw [insert]
    split
    · exact List.mem_cons_self ..
    · next hge =>
      split
      · next hlt =>
        have hne : (simple == name) = false := by
          rw [beq_eq_false_iff_ne]
          rintro rfl
          exact List.lt_irrefl simple hlt
        rw [List.lookup_cons, hne] at h
        exact List.mem_cons_of_mem _ (ih h)
      · next hle =>
        -- the name stands at the head of the list, with the binding that it has
        have hname : simple = name := List.le_antisymm hle hge
        subst hname
        have htarget : target = qualified := by simpa using h
        rw [htarget]
        exact List.mem_cons_self ..

/-- Inserting a name on both sides keeps the names in step with the bindings. -/
theorem inStep_insert {simple qualified : Text} {bindings : List (Text × Text)} {names : List Text}
    (hcan : (bindings.lookup simple).all (· == qualified) = true)
    (h : ∀ name, name ∈ names ↔ ∃ simple, (simple, name) ∈ bindings) (name : Text) :
    name ∈ Text.insertDistinct qualified names ↔
      ∃ other, (other, name) ∈ insert simple qualified bindings := by
  rw [Text.mem_insertDistinct, h]
  constructor
  · rintro (rfl | ⟨other, hother⟩)
    · exact ⟨simple, mem_insert_self hcan⟩
    · exact ⟨other, mem_insert_of_mem simple qualified hother⟩
  · rintro ⟨other, hother⟩
    rcases mem_insert hother with heq | hold
    · exact Or.inl (congrArg Prod.snd heq)
    · exact Or.inr ⟨other, hold⟩

/-- The qualified name that a simple name is bound to. -/
def binding? (table : ImportTable) (simple : Text) : Option Text := table.bindings.lookup simple

/-- Whether a simple name is free or already stands for the qualified name. -/
def canBind (table : ImportTable) (simple qualified : Text) : Bool :=
  (table.binding? simple).all (· == qualified)

/-- Binds a simple name to a qualified name, unless it stands for another one. -/
def bind? (table : ImportTable) (simple qualified : Text) : Option ImportTable :=
  if h : table.canBind simple qualified then
    some {
      bindings := insert simple qualified table.bindings
      qualifiedNames := Text.insertDistinct qualified table.qualifiedNames
      sorted := sorted_insert simple qualified table.sorted
      distinct := Text.pairwise_insertDistinct qualified table.distinct
      inStep := inStep_insert h table.inStep }
  else none

/-- Whether the qualified name is to be imported. -/
def contains (table : ImportTable) (qualified : Text) : Bool :=
  table.qualifiedNames.contains qualified

/-- The number of qualified names. -/
def size (table : ImportTable) : Nat := table.qualifiedNames.length

/-- Whether nothing is to be imported. -/
def isEmpty (table : ImportTable) : Bool := table.qualifiedNames.isEmpty

/-- The part of a qualified name before its first dot. -/
def topLevel (qualified : Text) : Text := qualified.takeWhile (· != '.')

/-- The number of different parts before the first dot. -/
def topLevelCount (table : ImportTable) : Nat :=
  (Text.distinct (table.qualifiedNames.map topLevel)).length

end ImportTable

end JvmSource
