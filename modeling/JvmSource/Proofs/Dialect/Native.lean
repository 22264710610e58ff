import Mathlib.Tactic.Common
import JvmSource.Proofs.Resolver.Recursion
import JvmSource.Proofs.Text.Split
import JvmSource.Proofs.TypeRef.RoundTrip

/-!
# Two ways of renaming

Native spellings are found in the text of a reference (`nativeName`) and in a reference that has
been read (`nativeType`). In text all pairs of brackets at the end count as array dimensions; in a
reference they do only if nothing else stands between them and the path. So the two agree where the
dimensions follow the path, as `print_nativeType_iff` says, and an array of a type with arguments is
renamed as text but not as a reference.
-/

namespace JvmSource

namespace Text

theorem times_succ_right (count : Nat) (text : Text) :
    times (count + 1) text = times count text ++ text := by
  induction count with
  | zero => simp [times]
  | succ count ih =>
    show text ++ times (count + 1) text = (text ++ times count text) ++ text
    rw [ih, List.append_assoc]

end Text

namespace Policy

open Suffix (dimension)

variable {policy : Policy} {array base text : Text} {type : TypeRef}

/-! ## Names of texts -/

/-- Dimensions are stripped until the text no longer ends with one. -/
theorem stripDimensions_append (h : ¬ dimension <:+ base) {dimensions bound : Nat}
    (hbound : dimensions ≤ bound) :
    stripDimensions bound (base ++ Text.times dimensions dimension) = (base, dimensions) := by
  induction dimensions generalizing bound with
  | zero =>
    have hnone : dimension.isSuffixOf? base = none := by
      rw [Option.eq_none_iff_forall_ne_some]
      intro element helement
      exact h ⟨element, List.isSuffixOf?_eq_some_iff_append_eq.mp helement⟩
    show stripDimensions bound (base ++ []) = (base, 0)
    rw [List.append_nil]
    cases bound with
    | zero => rfl
    | succ bound => rw [stripDimensions, hnone]
  | succ dimensions ih =>
    obtain ⟨bound, rfl⟩ : ∃ fewer, bound = fewer + 1 := ⟨bound - 1, by omega⟩
    have hsome : dimension.isSuffixOf? (base ++ Text.times (dimensions + 1) dimension) =
        some (base ++ Text.times dimensions dimension) := by
      rw [List.isSuffixOf?_eq_some_iff_append_eq, Text.times_succ_right, List.append_assoc]
    rw [stripDimensions, hsome]
    simp only [ih (by omega : dimensions ≤ bound)]

/-- Every text is one that ends with no dimension, and dimensions after it. -/
theorem exists_base (text : Text) :
    ∃ base dimensions, text = base ++ Text.times dimensions dimension ∧ ¬ dimension <:+ base := by
  induction hlength : text.length using Nat.strongRecOn generalizing text with
  | _ length ih =>
    by_cases hends : dimension <:+ text
    · obtain ⟨element, rfl⟩ := hends
      have hshorter : element.length < length := by
        rw [← hlength, List.length_append]
        simp
      obtain ⟨base, dimensions, hbase, hnot⟩ := ih _ hshorter element rfl
      refine ⟨base, dimensions + 1, ?_, hnot⟩
      rw [Text.times_succ_right, ← List.append_assoc, ← hbase]
    · exact ⟨text, 0, (List.append_nil text).symm, hends⟩

/-- An array is named after its elements. -/
theorem nativeName_append (harray : policy.arrayType = some array) (h : ¬ dimension <:+ base)
    (dimensions : Nat) :
    policy.nativeName (base ++ Text.times dimensions dimension) =
      wrapText array dimensions (policy.nativePath base) := by
  have hbound : dimensions ≤ (base ++ Text.times dimensions dimension).length := by
    have hpairs : (Text.times dimensions dimension).length = dimensions * 2 :=
      Text.length_times dimensions dimension
    rw [List.length_append]
    omega
  rw [nativeName, harray]
  simp only [stripDimensions_append h hbound]

/-- Without an array type, native spelling looks at the whole text as a path. -/
theorem nativeName_of_none (harray : policy.arrayType = none) :
    policy.nativeName text = policy.nativePath text := by
  rw [nativeName, harray]

/-- Each dimension ends with the closing bracket of the type that stands for arrays. -/
theorem getLast?_wrapText (array : Text) (dimensions : Nat) (element : Text) :
    (wrapText array (dimensions + 1) element).getLast? = some '>' := by
  induction dimensions generalizing element with
  | zero =>
    rw [List.getLast?_eq_some_iff]
    exact ⟨array ++ '<' :: element ++ ['?'], by simp [wrapText]⟩
  | succ dimensions ih => exact ih _

/-! ## Names of references -/

/-- A wrapped reference is printed as the wrapped text of the reference. -/
theorem print_wrapType (array : Text) (dimensions : Nat) (element : TypeRef) :
    (wrapType array dimensions element).print = wrapText array dimensions element.print := by
  induction dimensions generalizing element with
  | zero => rfl
  | succ dimensions ih =>
    rw [wrapType, wrapText, ih]
    simp [TypeRef.print, Suffix.print, TypeArg.printAll, TypeArg.print, Text.dotted_split,
      Bracket.opening, Bracket.closing]

theorem print_nativeNames (policy : Policy) (type : TypeRef) :
    (TypeRef.mk (policy.nativeNames type) .empty).print = policy.nativePath type.path := by
  rw [TypeRef.print, Suffix.print, List.append_nil, nativeNames, nativePath]
  cases policy.nativeTypes.lookup type.path with
  | none => rfl
  | some native => exact Text.dotted_split native

theorem print_eq_append (type : TypeRef) : type.print = type.path ++ type.suffix.print := by
  cases type
  rfl

/-- Whether only paths have native spellings of their own. -/
def RenamesPaths (policy : Policy) : Prop :=
  ∀ entry ∈ policy.nativeTypes, ∀ c ∈ entry.1, TypeRef.opens c = false

/-- A text with brackets has no native spelling of its own. -/
theorem nativePath_of_opens (hpaths : policy.RenamesPaths) {c : Char} (hc : c ∈ text)
    (hopens : TypeRef.opens c = true) : policy.nativePath text = text := by
  have hnone : policy.nativeTypes.lookup text = none := by
    rw [List.lookup_eq_none_iff]
    intro entry hentry
    have hne : text ≠ entry.1 := by
      intro heq
      rw [heq] at hc
      rw [hpaths entry hentry c hc] at hopens
      exact absurd hopens (by simp)
    simpa using hne
  rw [nativePath, hnone, Option.getD_none]

/-- No path ends with a pair of brackets. -/
theorem not_dimension_suffix_path (hpath : IsPath type.names) : ¬ dimension <:+ type.path := by
  intro hends
  have hmem : ']' ∈ type.path := hends.subset (by simp)
  exact hpath.not_mem (by decide) (by decide) hmem

/-! ## Agreement -/

/-- A bare path is renamed alike. -/
theorem print_nativeType_of_bare (hpath : IsPath type.names) (h : type.suffix = .empty) :
    (policy.nativeType type).print = policy.nativeName type.print := by
  have hprint : type.print = type.path ++ Text.times 0 dimension := by
    rw [print_eq_append, h]
    rfl
  rw [nativeType_of_bare policy h, print_nativeNames]
  cases harray : policy.arrayType with
  | none =>
    rw [nativeName_of_none harray, hprint]
    exact congrArg policy.nativePath (List.append_nil type.path).symm
  | some array =>
    rw [hprint, nativeName_append harray (not_dimension_suffix_path hpath)]
    rfl

/-- A path with dimensions is renamed alike. -/
theorem print_nativeType_of_array (harray : policy.arrayType = some array)
    (hpath : IsPath type.names) (h : type.suffix.arrayDimensions ≠ 0) :
    (policy.nativeType type).print = policy.nativeName type.print := by
  have hprint : type.print = type.path ++ Text.times type.suffix.arrayDimensions dimension := by
    conv_lhs => rw [print_eq_append, Suffix.eq_verbatim_of_arrayDimensions h, Suffix.print]
  rw [nativeType_of_array harray h, print_wrapType, print_nativeNames, hprint,
    nativeName_append harray (not_dimension_suffix_path hpath)]

/-- A reference that is kept is kept as text as well, unless its text ends with a dimension. -/
theorem nativeName_of_kept_iff (hpaths : policy.RenamesPaths) {c : Char} (hc : c ∈ text)
    (hopens : TypeRef.opens c = true) :
    text = policy.nativeName text ↔ (policy.arrayType.isSome = true → ¬ dimension <:+ text) := by
  cases harray : policy.arrayType with
  | none =>
    rw [nativeName_of_none harray, nativePath_of_opens hpaths hc hopens]
    simp
  | some array =>
    by_cases hends : dimension <:+ text
    · obtain ⟨base, dimensions, hbase, hnot⟩ := exists_base text
      obtain ⟨dimensions, rfl⟩ : ∃ fewer, dimensions = fewer + 1 := by
        cases dimensions with
        | zero => exact absurd hends (by rw [hbase, Text.times, List.append_nil]; exact hnot)
        | succ dimensions => exact ⟨dimensions, rfl⟩
      -- the name of an array ends with another bracket than the text
      have hname := getLast?_wrapText array dimensions (policy.nativePath base)
      rw [← nativeName_append harray hnot, ← hbase] at hname
      obtain ⟨front, hfront⟩ := hends
      have htext : text.getLast? = some ']' := by
        rw [← hfront]
        simp
      constructor
      · intro heq
        rw [← heq, htext] at hname
        exact absurd hname (by decide)
      · intro hnot
        exact absurd ⟨front, hfront⟩ (hnot rfl)
    · have hname := nativeName_append harray hends 0
      rw [show text ++ Text.times 0 dimension = text from List.append_nil _] at hname
      rw [hname]
      have hkeep := nativePath_of_opens hpaths hc hopens
      exact iff_of_true hkeep.symm fun _ => hends

end Policy

/-- In every dialect, only paths have native spellings of their own. -/
theorem Dialect.renamesPaths (dialect : Dialect) : dialect.policy.RenamesPaths := by
  have hnames : (dialect.policy.nativeTypes.all fun entry =>
      entry.1.all fun c => !TypeRef.opens c) = true := by
    cases dialect <;> rfl
  intro entry hentry c hc
  have hall := List.all_eq_true.mp hnames entry hentry
  simpa using List.all_eq_true.mp hall c hc

/-- What has been read has no suffix, or one that starts with a bracket. -/
theorem TypeRef.suffix_cases {text : Text} {type : TypeRef} (h : parse text = .ok type) :
    type.suffix = .empty ∨ ∃ c rest, type.suffix.print = c :: rest ∧ opens c = true := by
  have hcanonical := canonical_of_parse? (parse_eq_ok_iff.mp h)
  cases hcanonical with
  | bare path => exact Or.inl rfl
  | @plain rows names bracket args path ne_nil types pieces =>
    exact Or.inr ⟨bracket.opening, _, rfl, by cases bracket <;> rfl⟩
  | verbatim path ne_nil isSuffix unread =>
    rcases ends_of_isSuffix isSuffix with hnil | ⟨first, middle, last, hcons, hopens, -⟩
    · exact absurd hnil ne_nil
    · exact Or.inr ⟨first, _, hcons, hopens⟩

namespace Dialect

open Suffix (dimension)

/-- Renaming a reference that has been read and renaming its text come to the same exactly when,
in a dialect that has a type for arrays, the text does not end with array dimensions unless these
are all that follows the path. -/
theorem print_nativeType_iff (dialect : Dialect) {text : Text} {type : TypeRef}
    (h : TypeRef.parse text = .ok type) :
    (dialect.policy.nativeType type).print = dialect.policy.nativeName type.print ↔
      (dialect.policy.arrayType.isSome = true → dimension <:+ type.print →
        ∃ dimensions, type.suffix = .verbatim (Text.times dimensions dimension)) := by
  have hpath : IsPath type.names :=
    (TypeRef.wellFormed_toCut (TypeRef.canonical_of_parse? (TypeRef.parse_eq_ok_iff.mp h))).1.path
  rcases TypeRef.suffix_cases h with hbare | ⟨c, rest, hcons, hopens⟩
  · have hends : ¬ dimension <:+ type.print := by
      rw [Policy.print_eq_append, hbare, Suffix.print, List.append_nil]
      exact Policy.not_dimension_suffix_path hpath
    exact iff_of_true (Policy.print_nativeType_of_bare hpath hbare) fun _ hnot => absurd hnot hends
  · have hsuffix : type.suffix ≠ .empty := by
      intro hempty
      rw [hempty] at hcons
      exact absurd hcons (by simp [Suffix.print])
    have hc : c ∈ type.print := by
      rw [Policy.print_eq_append, hcons]
      simp
    by_cases hdim : dialect.policy.arrayType = none ∨ type.suffix.arrayDimensions = 0
    · rw [Policy.nativeType_of_kept _ hsuffix hdim,
        Policy.nativeName_of_kept_iff dialect.renamesPaths hc hopens]
      constructor
      · intro hnot harray hends
        exact absurd hends (hnot harray)
      · intro hdimensions harray hends
        obtain ⟨dimensions, htimes⟩ := hdimensions harray hends
        -- dimensions after the path would have been found
        have hzero : dimensions = 0 := by
          rcases hdim with hnone | hzero
          · rw [hnone] at harray
            exact absurd harray (by simp)
          · rwa [htimes, Suffix.arrayDimensions_times] at hzero
        rw [htimes, hzero] at hcons
        exact absurd hcons (by simp [Suffix.print, Text.times])
    · obtain ⟨harray, hdim⟩ := not_or.mp hdim
      obtain ⟨array, harray⟩ := Option.ne_none_iff_exists'.mp harray
      exact iff_of_true (Policy.print_nativeType_of_array harray hpath hdim) fun _ _ =>
        ⟨_, Suffix.eq_verbatim_of_arrayDimensions hdim⟩

/-- Two dimensions after a path are found both ways. -/
theorem print_nativeType_iff_integers :
    ∃ type, TypeRef.parse "java.lang.Integer[][]".toList = .ok type ∧
      kotlin.policy.nativeName type.print = "kotlin.Array<kotlin.Array<kotlin.Int?>?>".toList ∧
      ((kotlin.policy.nativeType type).print = kotlin.policy.nativeName type.print ↔
        (kotlin.policy.arrayType.isSome = true → dimension <:+ type.print →
          ∃ dimensions, type.suffix = .verbatim (Text.times dimensions dimension))) := by
  have hparse : TypeRef.parse "java.lang.Integer[][]".toList =
      .ok (.mk ["java".toList, "lang".toList, "Integer".toList] (.verbatim "[][]".toList)) := by
    rw [TypeRef.parse_eq_ok_iff, TypeRef.parse?_eq]
    rfl
  exact ⟨_, hparse, rfl, print_nativeType_iff kotlin hparse⟩

/-- An array of lists is renamed as text, and kept as a reference. -/
theorem lists_renamed_as_text_only :
    ∃ type, TypeRef.parse "java.util.List<a.B>[]".toList = .ok type ∧
      (kotlin.policy.nativeType type).print = "java.util.List<a.B>[]".toList ∧
      kotlin.policy.nativeName type.print = "kotlin.Array<java.util.List<a.B>?>".toList ∧
      (kotlin.policy.nativeType type).print ≠ kotlin.policy.nativeName type.print := by
  have hparse : TypeRef.parse "java.util.List<a.B>[]".toList =
      .ok (.mk ["java".toList, "util".toList, "List".toList] (.verbatim "<a.B>[]".toList)) := by
    rw [TypeRef.parse_eq_ok_iff, TypeRef.parse?_eq]
    rfl
  exact ⟨_, hparse, rfl, rfl, by decide⟩

end Dialect

end JvmSource
