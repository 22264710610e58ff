import Mathlib.Tactic.Common
import JvmSource.Identifier
import JvmSource.Proofs.Text.Split

/-!
# Characters of identifiers

Dots, brackets, commas and all white space keep out of identifiers, so a dotted path can be cut out
of a larger text, and cut into its names again. White space has few code points, which are tried one
by one; the tables of letters and numbers are never taken apart.
-/

namespace JvmSource

namespace Unicode

/-- Whether no code point lies in ranges of both lists. -/
def Ranges.apart (ranges others : Ranges) : Bool :=
  ranges.all fun range => others.all fun other =>
    Nat.blt range.2 other.1 || Nat.blt other.2 range.1

/-- Lists of ranges that are apart have no character in common. -/
theorem Ranges.not_contains_of_apart {ranges others : Ranges} (h : ranges.apart others = true)
    {c : Char} (hc : others.contains c = true) : ranges.contains c = false := by
  rw [Bool.eq_false_iff]
  intro hcontains
  obtain ⟨range, hrange, hlow, hhigh⟩ := contains_eq_true_iff.mp hcontains
  obtain ⟨other, hother, hlow', hhigh'⟩ := contains_eq_true_iff.mp hc
  simp only [apart, List.all_eq_true, Bool.or_eq_true, Nat.blt_eq] at h
  have := h range hrange other hother
  omega

/-- White space is apart from letters and numbers. -/
theorem apart_blanks :
    ∀ category ∈ Category.letters ++ Category.numbers, category.ranges.apart blanks = true := by
  decide +kernel

/-- White space belongs to no category of letters or numbers. -/
theorem contains_of_isBlank {category : Category} {c : Char} (hc : isBlank c = true)
    (h : category ∈ Category.letters ++ Category.numbers) : category.contains c = false := by
  have htable : category.contains c = category.ranges.contains c := by
    cases category <;> first | rfl | exact absurd h (by decide)
  rw [htable]
  exact Ranges.not_contains_of_apart (apart_blanks category h) hc

/-- The ASCII characters among white space are neither letters nor digits. -/
theorem ascii_of_isBlank {c : Char} (hascii : isAscii c = true) (hc : isBlank c = true) :
    c.isAlpha = false ∧ c.isDigit = false := by
  have hall : ∀ n < 0x80, isBlank (Char.ofNat n) = true →
      (Char.ofNat n).isAlpha = false ∧ (Char.ofNat n).isDigit = false := by decide +kernel
  have hlt : c.toNat < 0x80 := by simpa [isAscii] using hascii
  have := hall c.toNat hlt
  rw [Char.ofNat_toNat] at this
  exact this hc

/-- White space is no letter. -/
theorem isLetter_of_isBlank {c : Char} (hc : isBlank c = true) : isLetter c = false := by
  unfold isLetter
  split
  · next hascii => exact (ascii_of_isBlank hascii hc).1
  · rw [List.any_eq_false]
    intro category hcategory
    simp [contains_of_isBlank hc (List.mem_append_left _ hcategory)]

/-- White space is no number. -/
theorem isNumber_of_isBlank {c : Char} (hc : isBlank c = true) : isNumber c = false := by
  unfold isNumber
  split
  · next hascii => exact (ascii_of_isBlank hascii hc).2
  · rw [List.any_eq_false]
    intro category hcategory
    simp [contains_of_isBlank hc (List.mem_append_right _ hcategory)]

end Unicode

namespace Identifier

/-- A character that an identifier may start with is one that it may go on with. -/
theorem continues_of_starts {c : Char} (h : starts c = true) : continues c = true := by
  simp only [starts, Bool.or_eq_true] at h
  simp only [continues, Bool.or_eq_true]
  rcases h with h | h
  · exact Or.inl (Or.inl h)
  · exact Or.inr h

/-- No white space in an identifier. -/
theorem isBlank_of_continues {c : Char} (h : continues c = true) : Unicode.isBlank c = false := by
  rw [Bool.eq_false_iff]
  intro hblank
  simp only [continues, Bool.or_eq_true, Unicode.isLetter_of_isBlank hblank,
    Unicode.isNumber_of_isBlank hblank, beq_iff_eq] at h
  rcases h with (h | h) | rfl
  · exact absurd h (by simp)
  · exact absurd h (by simp)
  · exact absurd hblank (by decide)

/-- A character that does not belong in identifiers differs from one that does. -/
theorem ne_of_continues {c d : Char} (hc : continues c = true) (hd : continues d = false) :
    c ≠ d := by
  rintro rfl
  rw [hc] at hd
  exact absurd hd (by simp)

/-- All characters of an identifier are such that it may go on with them. -/
theorem continues_of_mem {name : Text} (h : accepts name = true) {c : Char} (hc : c ∈ name) :
    continues c = true := by
  cases name with
  | nil => simp at hc
  | cons first rest =>
    simp only [accepts, Bool.and_eq_true, List.all_eq_true] at h
    rcases List.mem_cons.mp hc with rfl | hc
    · exact continues_of_starts h.1
    · exact h.2 c hc

theorem ne_nil_of_accepts {name : Text} (h : accepts name = true) : name ≠ [] := by
  rintro rfl
  exact absurd h (by simp [accepts])

/-- What an identifier may not go on with is not in an identifier. -/
theorem not_mem_of_accepts {name : Text} (h : accepts name = true) {d : Char}
    (hd : continues d = false) : d ∉ name :=
  fun hmem => ne_of_continues (continues_of_mem h hmem) hd rfl

end Identifier

/-- Whether a text is an identifier, said of its characters. -/
inductive IsIdentifier : Text → Prop where
  | mk {first : Char} {rest : Text} (starts : Unicode.isLetter first = true ∨ first = '_')
      (continues : ∀ c ∈ rest, Unicode.isLetter c = true ∨ Unicode.isNumber c = true ∨ c = '_') :
      IsIdentifier (first :: rest)

/-- The test of a name accepts the identifiers and no other name. -/
theorem Identifier.accepts_iff {name : Text} : accepts name = true ↔ IsIdentifier name := by
  constructor
  · intro h
    cases name with
    | nil => exact absurd h (by simp [accepts])
    | cons first rest =>
      simp only [accepts, starts, continues, Bool.and_eq_true, List.all_eq_true, Bool.or_eq_true,
        beq_iff_eq, or_assoc] at h
      exact .mk h.1 h.2
  · intro h
    cases h with
    | mk starts' continues' =>
      simp only [accepts, starts, continues, Bool.and_eq_true, List.all_eq_true, Bool.or_eq_true,
        beq_iff_eq, or_assoc]
      exact ⟨starts', continues'⟩

/-! ## Dotted paths -/

/-- Whether names are those of a dotted path: there are some, and each is an identifier. -/
structure IsPath (names : List Text) : Prop where
  ne_nil : names ≠ []
  accepts : ∀ name ∈ names, Identifier.accepts name = true

namespace IsPath

variable {names : List Text} {c : Char}

/-- No name of a path has a dot. -/
theorem not_dot_mem (h : IsPath names) : ∀ name ∈ names, '.' ∉ name :=
  fun name hname => Identifier.not_mem_of_accepts (h.accepts name hname) (by decide)

/-- The names of a path are found between its dots. -/
theorem split_dotted (h : IsPath names) : Text.split '.' (Text.dotted names) = names :=
  Text.split_dotted h.ne_nil h.not_dot_mem

/-- The characters of a path are those of identifiers, and dots. -/
theorem continues_of_mem (h : IsPath names) (hc : c ∈ Text.dotted names) :
    c = '.' ∨ Identifier.continues c = true := by
  rcases Text.mem_dotted hc with rfl | ⟨name, hname, hc⟩
  · exact Or.inl rfl
  · exact Or.inr (Identifier.continues_of_mem (h.accepts name hname) hc)

/-- A character that is neither a dot nor of an identifier is not in a path. -/
theorem not_mem (h : IsPath names) (hdot : c ≠ '.') (hc : Identifier.continues c = false) :
    c ∉ Text.dotted names := by
  intro hmem
  rcases h.continues_of_mem hmem with rfl | hcont
  · exact hdot rfl
  · exact Identifier.ne_of_continues hcont hc rfl

/-- The names behind some of a path are a path, if any are left. -/
theorem drop (h : IsPath names) {count : Nat} (hcount : count < names.length) :
    IsPath (names.drop count) where
  ne_nil hnil := by
    rw [List.drop_eq_nil_iff] at hnil
    omega
  accepts name hname := h.accepts name (List.mem_of_mem_drop hname)

/-- The first names of a path are a path, if there are any. -/
theorem take (h : IsPath names) {count : Nat} (hcount : 0 < count) :
    IsPath (names.take count) where
  ne_nil hnil := by
    rw [List.take_eq_nil_iff] at hnil
    rcases hnil with hnil | hnil
    · omega
    · exact h.ne_nil hnil
  accepts name hname := h.accepts name (List.mem_of_mem_take hname)

theorem cons {name : Text} (h : IsPath names) (hname : Identifier.accepts name = true) :
    IsPath (name :: names) where
  ne_nil := List.cons_ne_nil name names
  accepts := List.forall_mem_cons.mpr ⟨hname, h.accepts⟩

theorem concat {name : Text} (h : IsPath names) (hname : Identifier.accepts name = true) :
    IsPath (names ++ [name]) where
  ne_nil := by simp
  accepts := List.forall_mem_append.mpr ⟨h.accepts, List.forall_mem_singleton.mpr hname⟩

/-- A path begins with the first character of an identifier. -/
theorem exists_cons (h : IsPath names) :
    ∃ first rest, Text.dotted names = first :: rest ∧ Identifier.starts first = true := by
  obtain ⟨name, others, rfl⟩ := List.exists_cons_of_ne_nil h.ne_nil
  have hname := h.accepts name (by simp)
  obtain ⟨first, rest, rfl⟩ := List.exists_cons_of_ne_nil (Identifier.ne_nil_of_accepts hname)
  simp only [Identifier.accepts, Bool.and_eq_true] at hname
  exact ⟨first, ['.'].intercalate (rest :: others), List.intercalate_cons_cons_left, hname.1⟩

/-- A path ends with a character of an identifier. -/
theorem exists_concat (h : IsPath names) :
    ∃ front last, Text.dotted names = front ++ [last] ∧ Identifier.continues last = true := by
  obtain ⟨first, rest, hcons, -⟩ := h.exists_cons
  have hne : Text.dotted names ≠ [] := by simp [hcons]
  obtain ⟨front, last, hlast⟩ : ∃ front last, Text.dotted names = front ++ [last] :=
    ⟨_, _, (List.dropLast_concat_getLast hne).symm⟩
  refine ⟨front, last, hlast, ?_⟩
  rcases h.continues_of_mem (c := last) (by simp [hlast]) with rfl | hlast'
  · -- a dot at the end would leave an empty name behind
    have hsplit : Text.split '.' (front ++ ['.']) = names := by rw [← hlast, h.split_dotted]
    have hnil : [] ∈ names := by
      rw [← hsplit, Text.split_eq_splitOn, List.splitOn_append_cons_self]
      simp
    exact absurd rfl (Identifier.ne_nil_of_accepts (h.accepts [] hnil))
  · exact hlast'

end IsPath

/-- A path is one identifier at least. -/
theorem isPath_iff {names : List Text} :
    IsPath names ↔ names ≠ [] ∧ ∀ name ∈ names, IsIdentifier name := by
  simp only [← Identifier.accepts_iff]
  exact ⟨fun h => ⟨h.ne_nil, h.accepts⟩, fun h => ⟨h.1, h.2⟩⟩

/-- A text is a dotted path exactly when it is one of names with dots between them, and these names
are found. -/
theorem pathNames?_eq_some_iff {text : Text} {names : List Text} :
    pathNames? text = some names ↔ IsPath names ∧ text = Text.dotted names := by
  have hiff : pathNames? text = some names ↔
      (Text.split '.' text).all Identifier.accepts = true ∧ Text.split '.' text = names := by
    unfold pathNames?
    simp
  rw [hiff, List.all_eq_true]
  constructor
  · rintro ⟨hall, rfl⟩
    exact ⟨⟨Text.split_ne_nil '.' text, hall⟩, (Text.dotted_split text).symm⟩
  · rintro ⟨hpath, rfl⟩
    rw [hpath.split_dotted]
    exact ⟨hpath.accepts, rfl⟩

end JvmSource
