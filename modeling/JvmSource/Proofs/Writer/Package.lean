import Mathlib.Tactic.Common
import JvmSource.Proofs.Layout.Braces
import JvmSource.Proofs.Writer.Layout

/-!
# The package that is found

When a file is complete, its text is searched for the line that declares its package, and the lines
of comments are searched as well. So a comment in front of the declaration can declare another
package, which is found in its place. `package_found_iff` says exactly when that does not happen:
when the first declaration among the lines up to the true one is of the same package.
-/

namespace JvmSource

/-- In a text of one line, the line itself is looked at. -/
theorem declaredPackage?_of_line {line : Text} (h : '\n' ∉ line) :
    declaredPackage? line = PackageLine.path? line := by
  rw [declaredPackage?, Text.split_of_not_mem h, List.findSome?_singleton]

/-- Whether a layout stands at the start of a line, with whole lines before it. -/
structure Layout.StartsLine (layout : Layout) : Prop where
  line : layout.line = []
  document : layout.document.text = [] ∨ ∃ front, layout.document.text = front ++ layout.newline

theorem Layout.startsLine_endLine (layout : Layout) : layout.endLine.StartsLine where
  line := rfl
  document := by
    rw [layout.text_endLine, ← List.append_assoc]
    exact Or.inr ⟨_, rfl⟩

/-- A declaration after whole lines, indented by spaces and tabs, is found unless one of these lines
declares a package. -/
theorem declaredPackage?_after {start gaps : Text} (dialect : Dialect) {names : List Text}
    (h : IsPath names) (hstart : start = [] ∨ ∃ front, start = front ++ ['\n'])
    (hgaps : ∀ c ∈ gaps, PackageLine.isGap c = true) :
    declaredPackage? (start ++
        (gaps ++ dialect.policy.packageStatement (Text.dotted names) ++ ['\n'])) =
      (declaredPackage? start).or (some (Text.dotted names)) := by
  have hempty : declaredPackage? [] = none := rfl
  have hpath := PackageLine.path?_packageStatement dialect h (Or.inl rfl)
  rw [List.append_nil, ← PackageLine.path?_append_of_gaps hgaps] at hpath
  -- the declaration stays on its line
  have hline : '\n' ∉ gaps ++ dialect.policy.packageStatement (Text.dotted names) := by
    rw [List.mem_append]
    rintro (hmem | hmem)
    · exact (PackageLine.isGaps_iff.mpr hgaps).newline_not_mem hmem
    · exact newline_not_mem_packageStatement dialect h hmem
  have hdeclaration : declaredPackage?
      (gaps ++ dialect.policy.packageStatement (Text.dotted names) ++ ['\n']) =
        some (Text.dotted names) := by
    rw [declaredPackage?_append, declaredPackage?_of_line hline, hpath]
    rfl
  rcases hstart with rfl | ⟨front, rfl⟩
  · rw [hempty, Option.none_or, List.nil_append, hdeclaration]
  · rw [List.append_assoc, List.singleton_append, declaredPackage?_append, hdeclaration,
      declaredPackage?_append, hempty, Option.or_none]

/-- No type of the package that is found is imported. -/
theorem ImportStyle.not_mem_emitted (style : ImportStyle) (table : ImportTable) {package name : Text}
    (hname : '.' ∉ name) :
    package ++ '.' :: name ∉ (style.block table (some package)).emitted := by
  intro hmem
  have hmember : isMember package (package ++ '.' :: name) = true := isMember_iff.mpr ⟨name, hname, rfl⟩
  have hnone := (mem_emitted.mp hmem).2
  unfold elision? at hnone
  split at hnone
  · exact absurd hnone (by simp)
  · split at hnone
    · exact absurd hnone (by simp)
    · rw [Option.any_some, if_pos hmember] at hnone
      exact absurd hnone (by simp)

namespace Writer

variable {writer : Writer}

theorem startsLine_docComment (writer : Writer) (text : Text) (args : List Arg) :
    (writer.docComment text args).layout.StartsLine := by
  unfold docComment
  simp only
  split
  · exact Layout.startsLine_endLine _
  · exact Layout.startsLine_endLine _

/-- Doc comments leave a writer at the start of a line. -/
theorem startsLine_run (h : writer.layout.StartsLine) {opening : List Call}
    (hopening : ∀ call ∈ opening, ∃ text args, call = .docComment text args) :
    (writer.run opening).2.layout.StartsLine := by
  induction opening generalizing writer with
  | nil => exact h
  | cons call opening ih =>
    obtain ⟨text, args, rfl⟩ := hopening call List.mem_cons_self
    exact ih (writer.startsLine_docComment text args) fun call hcall =>
      hopening call (List.mem_cons_of_mem _ hcall)

/-- What has been laid out stays at the start of the complete file. -/
theorem prefix_finish_run (writer : Writer) (calls : List Call) :
    writer.layout.document.text <+: (writer.run calls).2.layout.finish.text := by
  refine List.IsPrefix.trans ?_ (Layout.prefix_finish _)
  rw [layout_run]
  exact writer.layout.prefix_run _

/-- Once a line that has ended declares a package, this package is found in the complete file, and
none of its types is imported. -/
theorem package_finish_run {start package : Text} (htext : writer.layout.document.text = start ++ ['\n'])
    (hdeclared : declaredPackage? writer.layout.document.text = some package) (calls : List Call) :
    let file := (writer.run calls).2.finish
    file.content.package = some package ∧
      ∀ name, '.' ∉ name → package ++ '.' :: name ∉ file.content.imports.emitted := by
  intro file
  have hfound : file.content.package = some package := by
    have hprefix := writer.prefix_finish_run calls
    rw [htext] at hdeclared hprefix
    exact declaredPackage?_of_declared hdeclared hprefix
  refine ⟨hfound, ?_⟩
  intro name hname
  show _ ∉ (ImportStyle.block _ _ file.content.package).emitted
  rw [hfound]
  exact ImportStyle.not_mem_emitted _ _ hname

/-- In a file that begins with comments and a package, this package is found and none of its types
is imported, whatever else is called for, exactly when it is the first that the lines up to its
declaration declare. If lines are indented by spaces and tabs, that is when no line of the comments
is a declaration, or the first one of them is of the same package. -/
theorem package_found_iff {path package : Text} {config : Config} {order : ImportOrder}
    (hcreate : create path config order = .ok writer) (hnewline : config.newline = ['\n'])
    (hpackage : (pathNames? package).isSome = true) {opening : List Call}
    (hopening : ∀ call ∈ opening, ∃ text args, call = .docComment text args) :
    let start := (writer.run opening).2
    ((∀ calls, (∀ name, .package name ∉ calls) →
        let file := (writer.run (opening ++ .package package :: calls)).2.finish
        file.content.package = some package ∧
          ∀ name, '.' ∉ name → package ++ '.' :: name ∉ file.content.imports.emitted) ↔
      declaredPackage? (start.package package).layout.document.text = some package) ∧
    ((∀ c ∈ writer.layout.indent, PackageLine.isGap c = true) →
      (declaredPackage? (start.package package).layout.document.text = some package ↔
        ∀ other, declaredPackage? start.layout.document.text = some other → other = package)) := by
  intro start
  obtain ⟨names, hnames⟩ := Option.isSome_iff_exists.mp hpackage
  obtain ⟨hpath, rfl⟩ := pathNames?_eq_some_iff.mp hnames
  obtain ⟨indent, hlayout⟩ := layout_of_create hcreate
  obtain ⟨ended, -, hlays⟩ := Layout.advances_run
    (Layout.isNormal_new indent config.newline) (writer.allLayoutCalls opening)
  rw [← hlayout, ← layout_run] at hlays
  have hstart : start.layout.StartsLine := by
    apply startsLine_run _ hopening
    rw [hlayout]
    exact ⟨rfl, Or.inl rfl⟩
  have hnewline' : start.layout.newline = ['\n'] := by
    rw [hlays.newline, hlayout]
    exact hnewline
  -- up to the declaration the text has whole lines, the last of which is the declaration
  let declared := start.package (Text.dotted names)
  have htext : declared.layout.document.text = start.layout.document.text ++
      (Text.times start.layout.depth start.layout.indent ++
        start.dialect.policy.packageStatement (Text.dotted names) ++ ['\n']) := by
    rw [← hnewline']
    exact (goneOn_packageStatement start.dialect hpath hstart.line).text
  constructor
  · constructor
    · intro hfound
      obtain ⟨hpackage, -⟩ := hfound [] fun name => List.not_mem_nil
      rw [run_append] at hpackage
      exact hpackage
    · intro hdeclared calls _
      rw [← List.append_assoc] at htext
      rw [run_append]
      exact package_finish_run htext hdeclared calls
  · intro hgaps
    have hindent : ∀ c ∈ Text.times start.layout.depth start.layout.indent,
        PackageLine.isGap c = true := by
      intro c hc
      have hsame : start.layout.indent = writer.layout.indent := hlays.indent
      apply hgaps
      rw [← hsame]
      exact Layout.mem_of_mem_times hc
    have hdocument := hstart.document
    rw [hnewline'] at hdocument
    show declaredPackage? declared.layout.document.text = _ ↔ _
    rw [htext, declaredPackage?_after start.dialect hpath hdocument hindent]
    cases declaredPackage? start.layout.document.text with
    | none => simp
    | some first => simp

/-- Comments with a declaration of the same package, with one that is none, and with a brace, so
that the true declaration is indented. -/
theorem package_found_iff_indented :
    let opening : List Call := [.docComment "of\n package b;".toList [],
      .docComment "package %s; here\n\x7b".toList [.text "a".toList]]
    ∃ writer, create "A.java".toList {} .lexical = .ok writer ∧
      let start := (writer.run opening).2
      declaredPackage? start.layout.document.text = some "b".toList ∧
      ∀ calls, (∀ name, .package name ∉ calls) →
        let file := (writer.run (opening ++ .package "b".toList :: calls)).2.finish
        file.content.package = some "b".toList ∧
          ∀ name, '.' ∉ name → "b".toList ++ '.' :: name ∉ file.content.imports.emitted := by
  intro opening
  obtain ⟨writer, hcreate, hindent, hdeclared⟩ : ∃ writer,
      create "A.java".toList {} .lexical = .ok writer ∧
        (∀ c ∈ writer.layout.indent, PackageLine.isGap c = true) ∧
        declaredPackage? (writer.run opening).2.layout.document.text = some "b".toList := by
    refine ⟨_, rfl, List.all_eq_true.mp rfl, ?_⟩
    decide +kernel
  have hopening : ∀ call ∈ opening, ∃ text args, call = .docComment text args := by
    simp [opening]
  have hpackage : (pathNames? "b".toList).isSome = true := rfl
  obtain ⟨hfound, hfirst⟩ := package_found_iff hcreate rfl hpackage hopening
  refine ⟨writer, hcreate, hdeclared, hfound.mpr ((hfirst hindent).mpr ?_)⟩
  intro other hother
  rw [hdeclared] at hother
  exact (Option.some.inj hother).symm

/-- A line of a comment is taken for the declaration, and a type of the package is imported. -/
theorem package_not_found :
    let calls : List Call := [.docComment "\npackage a;".toList [], .package "b".toList, .imports,
      .reference "b.X".toList 1]
    ∃ writer, create "A.java".toList {} .lexical = .ok writer ∧
      let file := (writer.run calls).2.finish
      file.content.package = some "a".toList ∧ "b.X".toList ∈ file.content.imports.emitted := by
  intro calls
  obtain ⟨writer, hcreate, hpackage, hbinding, hkept⟩ : ∃ writer,
      create "A.java".toList {} .lexical = .ok writer ∧
      let file := (writer.run calls).2.finish
      file.content.package = some "a".toList ∧
        ("X".toList, "b.X".toList) ∈ file.table.bindings ∧
        (writer.run calls).2.importStyle.elision? (some "a".toList) "b.X".toList = none := by
    refine ⟨_, rfl, ?_, ?_, ?_⟩ <;> decide +kernel
  refine ⟨writer, hcreate, hpackage, ?_⟩
  show _ ∈ (ImportStyle.block _ _ (writer.run calls).2.finish.content.package).emitted
  rw [hpackage]
  exact ImportStyle.mem_emitted.mpr ⟨ImportTable.mem_ordered.mpr ⟨_, hbinding⟩, hkept⟩

end Writer

end JvmSource
