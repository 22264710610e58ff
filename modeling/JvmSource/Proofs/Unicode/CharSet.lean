import Mathlib.Data.List.Basic
import Mathlib.Tactic.Common
import JvmSource.Unicode.Property

/-!
# Members of sets of characters

A set is held as ranges that have been put in order and joined. Its members are the characters that
lie in one of the ranges that it was made from: neither the order nor the joining makes a
difference. Letters and numbers are the members of sets of categories.
-/

namespace JvmSource.Unicode

theorem Ranges.covers_cons {range : Nat × Nat} {ranges : Ranges} {codePoint : Nat} :
    covers (range :: ranges) codePoint = true ↔
      (range.1 ≤ codePoint ∧ codePoint ≤ range.2) ∨ covers ranges codePoint = true := by
  simp [covers]

namespace CharSet

/-- Ranges in order cover the same code points when those that overlap or touch are joined. -/
theorem covers_join {ranges : Ranges} (h : ranges.Pairwise fun a b => a.1 ≤ b.1)
    (codePoint : Nat) :
    (join ranges).covers codePoint = true ↔ ranges.covers codePoint = true := by
  induction ranges using join.induct with
  | case1 first last first' last' rest hjoin ih =>
    obtain ⟨hfirst, hrest⟩ := List.pairwise_cons.mp h
    have hle : first ≤ first' := hfirst (first', last') List.mem_cons_self
    have hjoined : List.Pairwise (fun a b : Nat × Nat => a.1 ≤ b.1)
        ((first, max last last') :: rest) :=
      List.pairwise_cons.mpr ⟨fun range hrange => hfirst range (List.mem_cons_of_mem _ hrange),
        (List.pairwise_cons.mp hrest).2⟩
    rw [join, if_pos hjoin, ih hjoined]
    simp only [Ranges.covers_cons, ← or_assoc]
    apply or_congr_left
    omega
  | case2 first last first' last' rest hjoin ih =>
    rw [join, if_neg hjoin, Ranges.covers_cons, ih (List.pairwise_cons.mp h).2,
      ← Ranges.covers_cons]
  | case3 ranges hranges => rw [join]; exact hranges

/-- A set made from ranges contains what the ranges contain. -/
theorem contains_ofRanges (ranges : Ranges) (c : Char) :
    (ofRanges ranges).contains c = ranges.contains c := by
  let before (range range' : Nat × Nat) : Bool := range.1 ≤ range'.1
  have htrans : ∀ a b c, before a b = true → before b c = true → before a c = true := by
    intro a b c hab hbc
    simp only [before, decide_eq_true_eq] at hab hbc ⊢
    exact Nat.le_trans hab hbc
  have htotal : ∀ a b, (before a b || before b a) = true := by
    intro a b
    simp only [before, Bool.or_eq_true, decide_eq_true_eq]
    exact Nat.le_total a.1 b.1
  have hsorted : (ranges.mergeSort before).Pairwise fun a b => a.1 ≤ b.1 :=
    (List.pairwise_mergeSort htrans htotal ranges).imp of_decide_eq_true
  have hperm : (ranges.mergeSort before).Perm ranges := List.mergeSort_perm ranges before
  rw [Bool.eq_iff_iff]
  calc (join (ranges.mergeSort before)).covers c.toNat = true
      ↔ Ranges.covers (ranges.mergeSort before) c.toNat = true := covers_join hsorted c.toNat
    _ ↔ ranges.covers c.toNat = true := by rw [Ranges.covers, hperm.any_eq, ← Ranges.covers]

/-- A union contains what one of its sets contains. -/
theorem contains_unions (sets : List CharSet) (c : Char) :
    (unions sets).contains c = sets.any (·.contains c) := by
  rw [unions, contains_ofRanges, Ranges.contains, Ranges.covers, List.any_flatMap]
  rfl

theorem contains_single {d c : Char} : (single d).contains c = true ↔ c = d := by
  have hcovers : (single d).contains c = true ↔ d.toNat ≤ c.toNat ∧ c.toNat ≤ d.toNat := by
    simp [single, range, contains, Ranges.contains, Ranges.covers]
  rw [hcovers]
  constructor
  · rintro ⟨hlow, hhigh⟩
    rw [← Char.ofNat_toNat c, Nat.le_antisymm hhigh hlow, Char.ofNat_toNat]
  · rintro rfl
    exact ⟨Nat.le_refl _, Nat.le_refl _⟩

end CharSet

namespace Category

/-- The set of some categories contains the characters of each of them. -/
theorem contains_sets {categories : List Category} (h : .unassigned ∉ categories) (c : Char) :
    (sets categories).contains c = categories.any (·.contains c) := by
  have hset : ∀ category ∈ categories, category.set.contains c = category.contains c := by
    intro category hcategory
    cases category with
    | unassigned => exact absurd hcategory h
    | _ => exact CharSet.contains_ofRanges _ c
  rw [sets, CharSet.contains_unions, List.any_map, Bool.eq_iff_iff, List.any_eq_true,
    List.any_eq_true]
  refine exists_congr fun category => and_congr_right fun hcategory => ?_
  rw [Function.comp_apply, hset category hcategory]

/-- The ranges that begin among the ASCII characters. -/
def asciiRanges (categories : List Category) : Ranges :=
  (categories.flatMap ranges).filter fun range => Nat.blt range.1 0x80

/-- For ASCII characters, categories are looked up in their ASCII ranges. -/
theorem any_contains_of_isAscii {categories : List Category} (h : .unassigned ∉ categories)
    {c : Char} (hc : isAscii c = true) :
    categories.any (·.contains c) = (asciiRanges categories).contains c := by
  have hlt : c.toNat < 0x80 := by simpa [isAscii] using hc
  have htable : ∀ category ∈ categories, category.contains c = category.ranges.contains c := by
    intro category hcategory
    cases category <;> first | rfl | exact absurd hcategory h
  rw [Bool.eq_iff_iff, List.any_eq_true, Ranges.contains_eq_true_iff]
  constructor
  · rintro ⟨category, hcategory, hcontains⟩
    rw [htable category hcategory] at hcontains
    obtain ⟨range, hrange, hlow, hhigh⟩ := Ranges.contains_eq_true_iff.mp hcontains
    refine ⟨range, List.mem_filter.mpr ⟨List.mem_flatMap.mpr ⟨category, hcategory, hrange⟩, ?_⟩,
      hlow, hhigh⟩
    rw [Nat.blt_eq]
    exact Nat.lt_of_le_of_lt hlow hlt
  · rintro ⟨range, hrange, hbounds⟩
    obtain ⟨category, hcategory, hrange⟩ := List.mem_flatMap.mp (List.mem_filter.mp hrange).1
    refine ⟨category, hcategory, ?_⟩
    rw [htable category hcategory]
    exact Ranges.contains_eq_true_iff.mpr ⟨range, hrange, hbounds⟩

/-- On ASCII the tables agree with the rules that are used there. -/
theorem contains_ascii {c : Char} (hc : isAscii c = true) :
    letters.any (·.contains c) = c.isAlpha ∧ numbers.any (·.contains c) = c.isDigit := by
  have hletters : asciiRanges letters = [(0x41, 0x5A), (0x61, 0x7A)] := by decide +kernel
  have hnumbers : asciiRanges numbers = [(0x30, 0x39)] := by decide +kernel
  have hall : ∀ n < 0x80,
      Ranges.contains [(0x41, 0x5A), (0x61, 0x7A)] (Char.ofNat n) = (Char.ofNat n).isAlpha ∧
        Ranges.contains [(0x30, 0x39)] (Char.ofNat n) = (Char.ofNat n).isDigit := by
    decide +kernel
  have hlt : c.toNat < 0x80 := by simpa [isAscii] using hc
  have hrules := hall c.toNat hlt
  rw [Char.ofNat_toNat] at hrules
  rwa [any_contains_of_isAscii (by decide) hc, any_contains_of_isAscii (by decide) hc, hletters,
    hnumbers]

/-- The set of the letters is the test for letters. -/
theorem contains_letters (c : Char) : (sets letters).contains c = isLetter c := by
  rw [contains_sets (by decide), isLetter]
  split
  · next hascii => exact (contains_ascii hascii).1
  · rfl

/-- The set of the numbers is the test for numbers. -/
theorem contains_numbers (c : Char) : (sets numbers).contains c = isNumber c := by
  rw [contains_sets (by decide), isNumber]
  split
  · next hascii => exact (contains_ascii hascii).2
  · rfl

end Category

end JvmSource.Unicode
