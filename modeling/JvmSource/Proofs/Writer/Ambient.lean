import Mathlib.Tactic.Common
import JvmSource.Proofs.Writer.Layout
import JvmSource.Proofs.Writer.OwnClass

/-!
# Names that are visible anyway

The import block leaves out names that a dialect has without an import. In Java sources these are
all names below `java.lang`, at any depth, so a class of a package inside it or a class inside one
of its classes is shortened like any other and not imported.
-/

namespace JvmSource

/-- Whether a qualified name goes on after a package, by one name or by more. -/
def LiesBelow (package qualified : Text) : Prop :=
  ∃ names, IsPath names ∧ qualified = package ++ '.' :: Text.dotted names

/-- A path lies below a package if it begins with it and a dot. -/
theorem IsPath.liesBelow_iff {names : List Text} {package : Text} (h : IsPath names) :
    LiesBelow package (Text.dotted names) ↔ package ++ ['.'] <+: Text.dotted names := by
  constructor
  · rintro ⟨below, -, heq⟩
    exact ⟨Text.dotted below, by rw [heq, List.append_assoc]; rfl⟩
  · rintro ⟨after, hafter⟩
    have heq : Text.dotted names = package ++ '.' :: after := by
      rw [← hafter, List.append_assoc]
      rfl
    exact ⟨Text.split '.' after, h.split_of_append heq, by rw [Text.dotted_split, heq]⟩

/-- In Java, all names below `java.lang` are ambient. -/
theorem Dialect.isAmbient_java_iff {qualified : Text} :
    java.policy.isAmbient qualified = true ↔ "java.lang".toList ++ ['.'] <+: qualified := by
  rw [← List.isPrefixOf_iff_prefix]
  simp [Policy.isAmbient, policy]

namespace ImportStyle

variable {style : ImportStyle} {table : ImportTable} {package : Option Text} {qualified : Text}

/-- A name is left out as ambient whenever it is, before all other reasons. -/
theorem elision?_eq_ambient_iff :
    style.elision? package qualified = some .ambient ↔ style.policy.isAmbient qualified = true := by
  unfold elision?
  split
  · next hambient => simp [hambient]
  · next hambient =>
    split
    · simp [hambient]
    · split <;> simp [hambient]

/-- The block leaves out as visible what is bound and visible, whatever else could be said of it. -/
theorem mem_elided_ambient_iff :
    (qualified, .ambient) ∈ (style.block table package).elided ↔
      (∃ simple, (simple, qualified) ∈ table.bindings) ∧
        style.policy.isAmbient qualified = true := by
  rw [mem_elided, elision?_eq_ambient_iff, ImportTable.mem_ordered]

/-- Ambient names are not imported. -/
theorem not_mem_emitted_of_isAmbient (h : style.policy.isAmbient qualified = true) :
    qualified ∉ (style.block table package).emitted := by
  intro hmem
  have hnone := (mem_emitted.mp hmem).2
  rw [elision?_eq_ambient_iff.mpr h] at hnone
  exact absurd hnone (by simp)

end ImportStyle

namespace Writer

variable {writer : Writer} {path className : Text} {config : Config} {order : ImportOrder}

/-- In every run of a writer of a Java file, the names that are left out as visible are those that
are bound and lie below `java.lang`, at any depth, and none of these is imported. -/
theorem ambient_iff_below_java_lang (hpath : Dialect.forPath path = .ok (.java, className))
    (hcreate : create path config order = .ok writer) (calls : List Call) :
    let file := (writer.run calls).2.finish
    let block := file.content.imports
    (∀ qualified, (qualified, .ambient) ∈ block.elided ↔
      (∃ simple, (simple, qualified) ∈ file.table.bindings) ∧
        LiesBelow "java.lang".toList qualified) ∧
    ∀ binding ∈ file.table.bindings, LiesBelow "java.lang".toList binding.2 →
      (binding.2, .ambient) ∈ block.elided ∧ binding.2 ∉ block.emitted := by
  intro file block
  let style := (writer.run calls).2.importStyle
  have hpolicy : style.policy = Dialect.java.policy := by
    have hdialect : (writer.run calls).2.dialect = .java :=
      (dialect_run writer calls).trans (of_create hpath hcreate).1
    exact congrArg Dialect.policy hdialect
  -- a bound name is a path, and there a prefix of the text is a prefix of the names
  have hvisible : ∀ simple qualified, (simple, qualified) ∈ file.table.bindings →
      (style.policy.isAmbient qualified = true ↔ LiesBelow "java.lang".toList qualified) := by
    intro simple qualified hbinding
    obtain ⟨scope, ⟨front, hfront, haccepts, hqualified⟩, -⟩ := names_of_run hcreate calls _ hbinding
    have hnames : qualified = Text.dotted (front ++ [simple]) := hqualified
    rw [hpolicy, Dialect.isAmbient_java_iff, hnames, (hfront.concat haccepts).liesBelow_iff]
  have helided : ∀ qualified, (qualified, .ambient) ∈ block.elided ↔
      (∃ simple, (simple, qualified) ∈ file.table.bindings) ∧
        LiesBelow "java.lang".toList qualified := by
    intro qualified
    have hblock : (qualified, .ambient) ∈ block.elided ↔
        (∃ simple, (simple, qualified) ∈ file.table.bindings) ∧
          style.policy.isAmbient qualified = true := ImportStyle.mem_elided_ambient_iff
    rw [hblock]
    exact and_congr_right fun ⟨simple, hbinding⟩ => hvisible simple qualified hbinding
  refine ⟨helided, fun binding hbinding hbelow => ?_⟩
  exact ⟨(helided _).mpr ⟨⟨_, hbinding⟩, hbelow⟩,
    ImportStyle.not_mem_emitted_of_isAmbient ((hvisible _ _ hbinding).mpr hbelow)⟩

/-- A file that refers to a class of `java.lang`, to one inside such a class and to one outside. -/
theorem ambient_iff_below_java_lang_state :
    ∃ writer,
      create "src/Main.java".toList {} .lexical = .ok writer ∧
      let file := (writer.run [.package "com.acme".toList, .imports,
        .printClass "java.util.Map<java.lang.String,java.lang.Thread.State>".toList]).2.finish
      let block := file.content.imports
      file.table.bindings = [("Map".toList, "java.util.Map".toList),
        ("State".toList, "java.lang.Thread.State".toList),
        ("String".toList, "java.lang.String".toList)] ∧
      (∀ qualified, (qualified, .ambient) ∈ block.elided ↔
        (∃ simple, (simple, qualified) ∈ file.table.bindings) ∧
          LiesBelow "java.lang".toList qualified) ∧
      ∀ binding ∈ file.table.bindings, LiesBelow "java.lang".toList binding.2 →
        (binding.2, .ambient) ∈ block.elided ∧ binding.2 ∉ block.emitted := by
  have hpath : Dialect.forPath "src/Main.java".toList = .ok (.java, "Main".toList) := by rfl
  have hcreate : ∃ writer, create "src/Main.java".toList {} .lexical = .ok writer := ⟨_, rfl⟩
  obtain ⟨writer, hcreate⟩ := hcreate
  refine ⟨writer, hcreate, ?_, ambient_iff_below_java_lang hpath hcreate _⟩
  cases hcreate
  decide +kernel

/-- A class of a package inside `java.lang` is no member of `java.lang`, and left out as visible. -/
theorem reflected_method_not_imported :
    ∃ writer,
      create "A.java".toList {} .lexical = .ok writer ∧
      let file := (writer.run [.package "a".toList, .imports,
        .reference "java.lang.reflect.Method".toList 1]).2.finish
      ("Method".toList, "java.lang.reflect.Method".toList) ∈ file.table.bindings ∧
        ("java.lang.reflect.Method".toList, .ambient) ∈ file.content.imports.elided ∧
        ¬ ∃ name, '.' ∉ name ∧
          "java.lang.reflect.Method".toList = "java.lang.".toList ++ name := by
  refine ⟨_, rfl, ?_, ?_, ?_⟩
  · decide +kernel
  · decide +kernel
  · rintro ⟨name, hdot, heq⟩
    have happend : "java.lang.".toList ++ "reflect.Method".toList = "java.lang.".toList ++ name := heq
    rw [← List.append_cancel_left happend] at hdot
    exact absurd hdot (by decide)

end Writer

end JvmSource
