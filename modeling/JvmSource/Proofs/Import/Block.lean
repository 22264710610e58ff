import Mathlib.Data.List.Basic
import JvmSource.Proofs.Import.Accounting
import JvmSource.Proofs.Import.Sorting

/-!
# What import blocks look like

A block is written name by name, and only the name that was imported last decides whether a blank
line comes first: the names that are left out neither start a group nor split one. Both the imported
names and those left out stand in the order of the stable sort of all names.
-/

namespace JvmSource.ImportStyle

/-- What a block has for a name, where `before` is the name that was imported before it, if any. -/
def entry (style : ImportStyle) (before : Option Text) (name : Text) : Text :=
  (if before.map ImportTable.topLevel = some (ImportTable.topLevel name) then []
    else style.newline) ++ style.policy.importStatement name ++ style.newline

/-- What a block has for names that are imported one after the other. -/
def entries (style : ImportStyle) (names : List Text) : Text :=
  (List.zipWith style.entry (none :: names.map some) names).flatten

variable {style : ImportStyle}

/-- The statements after a name are the entries after it: of the name before, the writer keeps the
first part only. -/
theorem statements_topLevel (before : Text) (names : List Text) :
    style.statements (ImportTable.topLevel before) names =
      (List.zipWith style.entry (some before :: names.map some) names).flatten := by
  induction names generalizing before with
  | nil => rfl
  | cons name names ih =>
    have hgroup : (if ImportTable.topLevel name = ImportTable.topLevel before then []
          else style.newline) ++ style.policy.importStatement name ++ style.newline =
        style.entry (some before) name := by
      unfold entry
      by_cases hsame : ImportTable.topLevel name = ImportTable.topLevel before
      · simp [hsame]
      · simp [hsame, Ne.symm hsame]
    show (if ImportTable.topLevel name = ImportTable.topLevel before then []
        else style.newline) ++ style.policy.importStatement name ++ style.newline ++
          style.statements (ImportTable.topLevel name) names = _
    rw [hgroup, ih name]
    rfl

/-- The first name begins a group, as no name has an empty first part. -/
theorem statements_eq_entries {names : List Text}
    (h : ∀ name ∈ names, ImportTable.topLevel name ≠ []) :
    style.statements [] names = style.entries names := by
  cases names with
  | nil => rfl
  | cons name names =>
    have hfirst : ImportTable.topLevel name ≠ [] := h name (by simp)
    show (if ImportTable.topLevel name = [] then [] else style.newline) ++
        style.policy.importStatement name ++ style.newline ++
          style.statements (ImportTable.topLevel name) names = _
    rw [if_neg hfirst, statements_topLevel]
    rfl

/-- Every name of a table is imported or left out, once; the imported names and those left out
follow the one stable sort of all names; and the text of the block is the entries of the imported
names. -/
theorem block_written (style : ImportStyle) [Std.TransCmp style.order.compare] (table : ImportTable)
    (package : Option Text) (h : ∀ name ∈ table.qualifiedNames, ImportTable.topLevel name ≠ []) :
    let block := style.block table package
    (block.emitted ++ block.elided.map Prod.fst).Perm table.qualifiedNames ∧
      (∃ sorted, table.qualifiedNames.Pairwise (· < ·) ∧
        (∀ names, IsStableSort style.order.Le table.qualifiedNames names ↔ names = sorted) ∧
        block.emitted.Sublist sorted ∧ (block.elided.map Prod.fst).Sublist sorted) ∧
      block.text = style.entries block.emitted := by
  have hperm := table.perm_ordered style.order
  have hsort := table.isStableSort_ordered style.order
  refine ⟨(perm_block style table package).trans hperm, ?_, ?_⟩
  · refine ⟨table.ordered style.order, table.distinct, ?_, ?_, ?_⟩
    · intro names
      constructor
      · exact fun hnames => hnames.eq table.nodup_qualifiedNames hsort
      · rintro rfl
        exact hsort
    · rw [emitted_block]
      exact style.sublist_imported package _
    · rw [elided_names]
      exact List.filter_sublist
  · rw [text_block]
    refine statements_eq_entries ?_
    intro name hname
    exact h name (hperm.mem_iff.mp (mem_emitted.mp hname).1)

/-- The name that is left out between two others does not part them. -/
theorem block_written_between :
    ∃ table : ImportTable,
      table.qualifiedNames =
        ["java.io.File", "java.lang.Long", "java.util.Random", "scala.Some"].map String.toList ∧
      (∀ name ∈ table.qualifiedNames, ImportTable.topLevel name ≠ []) ∧
      let style : ImportStyle := ⟨Dialect.java.policy, "Report".toList, .shortest, ['\n']⟩
      let block := style.block table none
      block = {
        text := "\nimport scala.Some;\n\nimport java.io.File;\nimport java.util.Random;\n".toList
        emitted := ["scala.Some", "java.io.File", "java.util.Random"].map String.toList
        elided := [("java.lang.Long".toList, .ambient)] } ∧
      (block.emitted ++ block.elided.map Prod.fst).Perm table.qualifiedNames ∧
        (∃ sorted, table.qualifiedNames.Pairwise (· < ·) ∧
          (∀ names, IsStableSort style.order.Le table.qualifiedNames names ↔ names = sorted) ∧
          block.emitted.Sublist sorted ∧ (block.elided.map Prod.fst).Sublist sorted) ∧
        block.text = style.entries block.emitted := by
  let table : ImportTable := {
    bindings := [("File".toList, "java.io.File".toList), ("Long".toList, "java.lang.Long".toList),
      ("Random".toList, "java.util.Random".toList), ("Some".toList, "scala.Some".toList)]
    qualifiedNames :=
      ["java.io.File", "java.lang.Long", "java.util.Random", "scala.Some"].map String.toList
    sorted := by decide
    distinct := by decide
    inStep := by simp [exists_or] }
  have htop : ∀ name ∈ table.qualifiedNames, ImportTable.topLevel name ≠ [] := by decide
  have hsorted : table.ordered .shortest =
      ["scala.Some", "java.io.File", "java.lang.Long", "java.util.Random"].map String.toList := by
    have hsort : IsStableSort ImportOrder.shortest.Le table.qualifiedNames
        (["scala.Some", "java.io.File", "java.lang.Long", "java.util.Random"].map String.toList) := by
      decide
    exact (table.isStableSort_ordered .shortest).eq table.nodup_qualifiedNames hsort
  refine ⟨table, rfl, htop, ?_, block_written _ table none htop⟩
  rw [block, hsorted]
  decide +kernel

end JvmSource.ImportStyle
