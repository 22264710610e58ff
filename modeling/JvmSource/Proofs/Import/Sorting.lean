import Mathlib.Data.List.Basic
import Mathlib.Data.List.Pairwise
import Mathlib.Tactic.Common
import JvmSource.Import.Ordering
import JvmSource.Proofs.Import.Bindings

/-!
# Stable sorting

The names of a table are sorted by an order that may take different names for equal; these stay as
they were. `IsStableSort` says what that means without saying how it is done, and a list without
repetitions has one stable sort only (`IsStableSort.eq`). The orders that imports can be written in
compare any two names, and are transitive.
-/

namespace JvmSource

/-- Whether a list is another one in order, where what comes before something that is not smaller
stays before it. -/
structure IsStableSort {α : Type} (le : α → α → Prop) (source sorted : List α) : Prop where
  perm : sorted.Perm source
  ordered : sorted.Pairwise le
  stable : ∀ first second, [first, second].Sublist source → le first second →
    [first, second].Sublist sorted

section

variable {α : Type} {list : List α} {x y : α}

/-- In a list without repetitions two elements come in one order only. -/
theorem not_sublist_swap (hnodup : list.Nodup) (h : [x, y].Sublist list) :
    ¬ [y, x].Sublist list := by
  induction list with
  | nil => exact absurd h.length_le (by simp)
  | cons first rest ih =>
    obtain ⟨hfirst, hrest⟩ := List.nodup_cons.mp hnodup
    intro hswap
    rw [List.cons_sublist_cons'] at h hswap
    rcases h with h | ⟨hx, hy⟩
    · rcases hswap with hswap | ⟨hy, -⟩
      · exact ih hrest h hswap
      · exact hfirst (hy ▸ h.subset (by simp))
    · have hmem : first ∈ rest := by
        rcases hswap with hswap | ⟨-, hx'⟩
        · exact hx ▸ hswap.subset (by simp)
        · exact hx ▸ hx'.subset (by simp)
      exact hfirst hmem

/-- Two elements come in one order or the other. -/
theorem sublist_or_sublist_swap (hx : x ∈ list) (hy : y ∈ list) (hne : x ≠ y) :
    [x, y].Sublist list ∨ [y, x].Sublist list := by
  have hpairs : list.Pairwise fun x y => [x, y].Sublist list ∨ [y, x].Sublist list :=
    List.pairwise_iff_forall_sublist.mpr Or.inl
  have hsymm : Std.Symm fun x y => [x, y].Sublist list ∨ [y, x].Sublist list := ⟨fun _ _ => Or.symm⟩
  exact hpairs.forall hx hy hne

end

namespace IsStableSort

variable {α : Type} {le : α → α → Prop} {source sorted other : List α}

/-- The three conditions, all of them on pairs of elements in their order. -/
theorem iff_pairwise : IsStableSort le source sorted ↔
    sorted.Perm source ∧ sorted.Pairwise le ∧
      source.Pairwise fun first second => le first second → [first, second].Sublist sorted := by
  rw [List.pairwise_iff_forall_sublist (l := source)]
  exact ⟨fun h => ⟨h.perm, h.ordered, fun hsub => h.stable _ _ hsub⟩,
    fun ⟨perm, ordered, stable⟩ => ⟨perm, ordered, fun _ _ hsub => stable hsub⟩⟩

instance [DecidableEq α] [DecidableRel le] : Decidable (IsStableSort le source sorted) :=
  decidable_of_iff _ iff_pairwise.symm

/-- In a stable sort elements that are taken for equal stand as in the source. -/
theorem pairwise (hnodup : source.Nodup) (h : IsStableSort le source sorted) :
    sorted.Pairwise fun x y => le x y ∧ (le y x → [x, y].Sublist source) := by
  have hnodup' : sorted.Nodup := h.perm.nodup_iff.mpr hnodup
  rw [List.pairwise_iff_forall_sublist]
  intro x y hxy
  refine ⟨h.ordered.forall_sublist hxy, ?_⟩
  intro hback
  have hx : x ∈ source := h.perm.mem_iff.mp (hxy.subset (by simp))
  have hy : y ∈ source := h.perm.mem_iff.mp (hxy.subset (by simp))
  have hne : x ≠ y := List.Pairwise.forall_sublist hnodup' hxy
  rcases sublist_or_sublist_swap hx hy hne with hsource | hsource
  · exact hsource
  · -- then they would stand in the other order in the sort as well
    exact absurd (h.stable y x hsource hback) (not_sublist_swap hnodup' hxy)

/-- A list without repetitions has one stable sort only. -/
theorem eq (hnodup : source.Nodup) (h : IsStableSort le source sorted)
    (h' : IsStableSort le source other) : sorted = other := by
  refine List.Perm.eq_of_pairwise ?_ (h.pairwise hnodup) (h'.pairwise hnodup)
    (h.perm.trans h'.perm.symm)
  intro x y hx hy hxy hyx
  by_cases hsame : x = y
  · exact hsame
  · exact absurd (hyx.2 hxy.1) (not_sublist_swap hnodup (hxy.2 hyx.1))

end IsStableSort

/-- Whether an order puts a name before another one, or takes them for equal. -/
def ImportOrder.Le (order : ImportOrder) (a b : Text) : Prop := (order.compare a b).isLE = true

instance ImportOrder.decidableLe (order : ImportOrder) : DecidableRel order.Le :=
  fun a b => inferInstanceAs (Decidable ((order.compare a b).isLE = true))

namespace ImportTable

/-- The names of a table are sorted stably. -/
theorem isStableSort_ordered (table : ImportTable) (order : ImportOrder)
    [Std.TransCmp order.compare] :
    IsStableSort order.Le table.qualifiedNames (table.ordered order) := by
  have htrans : ∀ a b c, (order.compare a b).isLE = true → (order.compare b c).isLE = true →
      (order.compare a c).isLE = true := fun _ _ _ => Std.TransCmp.isLE_trans
  have htotal : ∀ a b, ((order.compare a b).isLE || (order.compare b a).isLE) = true := by
    intro a b
    have hswap : order.compare a b = (order.compare b a).swap := Std.OrientedCmp.eq_swap
    rw [hswap]
    cases order.compare b a <;> rfl
  refine ⟨List.mergeSort_perm _ _, List.pairwise_mergeSort htrans htotal _, ?_⟩
  intro first second hsource hle
  exact List.pair_sublist_mergeSort htrans htotal hle hsource

end ImportTable

/-! ## The orders that imports can be written in -/

/-- A text comes first, or is taken for equal, unless the other one is smaller. -/
theorem Text.isLE_order_iff {a b : Text} : (order a b).isLE = true ↔ ¬ b < a := by
  unfold order
  by_cases hlt : a < b
  · rw [if_pos hlt]
    exact iff_of_true rfl fun hgt => List.lt_irrefl a (List.lt_trans hlt hgt)
  · rw [if_neg hlt]
    by_cases hgt : b < a
    · simp [hgt]
    · simp [hgt]

theorem Text.isLE_order_of_lt {a b : Text} (h : a < b) : (order a b).isLE = true :=
  isLE_order_iff.mpr fun hgt => List.lt_irrefl a (List.lt_trans h hgt)

instance Text.transCmp_order : Std.TransCmp Text.order where
  eq_swap := by
    intro a b
    unfold order
    by_cases hlt : a < b
    · have hgt : ¬ b < a := fun hgt => List.lt_irrefl a (List.lt_trans hlt hgt)
      simp [hlt, hgt]
    · by_cases hgt : b < a
      · simp [hlt, hgt]
      · simp [hlt, hgt]
  isLE_trans := by
    intro a b c hab hbc
    rw [isLE_order_iff] at *
    exact List.le_trans hab hbc

namespace ImportOrder

instance transCmp_lexical : Std.TransCmp lexical.compare := Text.transCmp_order

instance transCmp_reverse : Std.TransCmp reverse.compare :=
  inferInstanceAs (Std.TransCmp fun a b => Text.order b a)

instance transCmp_javaFirst : Std.TransCmp javaFirst.compare :=
  inferInstanceAs (Std.TransCmp (compareOn fun name : Text =>
    if "java.".toList.isPrefixOf name then 0 else 1))

instance transCmp_shortest : Std.TransCmp shortest.compare :=
  inferInstanceAs (Std.TransCmp (compareOn Text.byteSize))

end ImportOrder

namespace ImportTable

/-- By code point, the names stand as the table has them. -/
theorem ordered_lexical (table : ImportTable) : table.ordered .lexical = table.qualifiedNames :=
  List.mergeSort_of_pairwise (table.distinct.imp Text.isLE_order_of_lt)

/-- Backwards by code point, the names stand in the other direction. -/
theorem ordered_reverse (table : ImportTable) :
    table.ordered .reverse = table.qualifiedNames.reverse := by
  have hsort : IsStableSort ImportOrder.reverse.Le table.qualifiedNames
      table.qualifiedNames.reverse := by
    refine ⟨List.reverse_perm _, ?_, ?_⟩
    · rw [List.pairwise_reverse]
      exact table.distinct.imp Text.isLE_order_of_lt
    · -- no two names are taken for equal, so none has to keep its place
      intro first second hsource hle
      exact absurd (table.distinct.forall_sublist hsource) (Text.isLE_order_iff.mp hle)
  exact (table.isStableSort_ordered .reverse).eq table.nodup_qualifiedNames hsort

end ImportTable

end JvmSource
