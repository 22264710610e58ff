import Mathlib.Tactic.Common
import JvmSource.Writer.Call
import JvmSource.Proofs.Import.Accounting
import JvmSource.Proofs.Import.Sorting
import JvmSource.Proofs.Layout.Lines
import JvmSource.Proofs.PackageLine

/-!
# Imports of a complete file

A file that declares its package first keeps the declaration at the start of its text, and resolves
all references in that package. So the package that is found when the file is completed is the one
that references were resolved in, and the import block accounts for every binding, in all runs of a
writer.
-/

namespace JvmSource.Writer

/-- What stays the same in a file that has begun: what its references are resolved by, and the text
that it starts with. All bindings of its table stand for classes. -/
structure Begun (writer : Writer) (dialect : Dialect) (scope : Scope) (start : Text) : Prop where
  dialect_eq : writer.dialect = dialect
  policy_eq : writer.resolver.policy = dialect.policy
  scope_eq : writer.scope = scope
  sound : writer.table.Sound scope
  starts : start <+: writer.layout.document.text

variable {writer : Writer} {dialect : Dialect} {scope : Scope} {start : Text}

namespace Begun

/-- Laying out more text leaves the beginning of a file alone. -/
theorem layOut (h : writer.Begun dialect scope start) {f : Layout → Layout}
    (hf : ∀ layout : Layout, layout.document.text <+: (f layout).document.text) :
    (writer.layOut f).Begun dialect scope start where
  dialect_eq := h.dialect_eq
  policy_eq := h.policy_eq
  scope_eq := h.scope_eq
  sound := h.sound
  starts := h.starts.trans (hf writer.layout)

theorem print (h : writer.Begun dialect scope start) (text : Text) :
    (writer.layOut (·.print text)).Begun dialect scope start :=
  h.layOut fun layout => layout.prefix_print text

theorem println (h : writer.Begun dialect scope start) (text : Text) :
    (writer.layOut (·.println text)).Begun dialect scope start :=
  h.layOut fun layout => layout.prefix_println text

theorem newline (h : writer.Begun dialect scope start) :
    writer.newline.Begun dialect scope start := h.layOut fun layout => layout.prefix_endLine

theorem threeLines (h : writer.Begun dialect scope start) (first second third : Text) :
    (writer.layOut fun layout =>
      ((layout.println first).println second).println third).Begun dialect scope start :=
  h.layOut fun layout =>
    calc layout.document.text
      _ <+: (layout.println first).document.text := layout.prefix_println first
      _ <+: ((layout.println first).println second).document.text := Layout.prefix_println _ second
      _ <+: (((layout.println first).println second).println third).document.text :=
        Layout.prefix_println _ third

/-- The policy of a file that has begun is that of a dialect, so its native spellings are paths. -/
theorem nativePaths (h : writer.Begun dialect scope start) :
    writer.resolver.policy.NativePaths := by
  rw [h.policy_eq]
  exact dialect.nativePaths

/-- Resolving a reference binds classes only, and writes nothing. -/
theorem reference (h : writer.Begun dialect scope start) (type : Text) (keep : Nat) :
    (writer.reference type keep).2.Begun dialect scope start where
  dialect_eq := h.dialect_eq
  policy_eq := h.policy_eq
  scope_eq := h.scope_eq
  sound := by
    show (writer.resolver.resolve writer.scope writer.table type keep).2.Sound scope
    rw [h.scope_eq]
    exact Resolver.sound_resolve h.nativePaths type keep h.sound
  starts := h.starts

/-- Resolving references binds classes only, and writes nothing. -/
theorem references (h : writer.Begun dialect scope start) (types : List Text) (keep : Nat) :
    (writer.references types keep).2.Begun dialect scope start where
  dialect_eq := h.dialect_eq
  policy_eq := h.policy_eq
  scope_eq := h.scope_eq
  sound := by
    show (writer.resolver.resolveAll writer.scope keep types writer.table).2.Sound scope
    rw [h.scope_eq]
    exact Resolver.sound_resolveAll h.nativePaths keep types h.sound
  starts := h.starts

/-- An annotation, where it is wanted, is laid out behind the beginning. -/
theorem override (h : writer.Begun dialect scope start) (wanted : Bool) :
    (writer.override wanted).Begun dialect scope start := by
  unfold Writer.override
  split
  · exact h.println _
  · exact h

theorem mark (h : writer.Begun dialect scope start) (mark : Mark) :
    (writer.layOut (·.mark mark)).Begun dialect scope start :=
  h.layOut fun layout => List.prefix_refl layout.document.text

/-- A documentation comment, where it is wanted, is laid out behind the beginning. -/
theorem docComment (h : writer.Begun dialect scope start) (text : Text) (args : List Arg) :
    (writer.docComment text args).Begun dialect scope start := by
  unfold Writer.docComment
  simp only
  split
  · exact h.newline.threeLines _ _ _
  · exact h.newline

theorem header (h : writer.Begun dialect scope start) (text : Text) (args : List Arg) :
    (writer.header text args).Begun dialect scope start := by
  unfold Writer.header
  exact h.newline.threeLines _ _ _

theorem serial (h : writer.Begun dialect scope start) :
    writer.serial.Begun dialect scope start := by
  unfold Writer.serial
  split
  · exact h.newline.layOut fun layout =>
      calc layout.document.text
        _ <+: (layout.print _).document.text := layout.prefix_print _
        _ <+: (((layout.print _).mark .serial).println [';']).document.text :=
          Layout.prefix_println ((layout.print _).mark .serial) [';']
  · exact h

theorem imports (h : writer.Begun dialect scope start) :
    writer.imports.Begun dialect scope start := (h.mark .imports).newline

/-- No call but the declaration of a package changes what a file has begun with. -/
theorem perform (h : writer.Begun dialect scope start) {call : Call}
    (hcall : ∀ name, call ≠ .package name) :
    (writer.perform call).2.Begun dialect scope start := by
  cases call with
  | print template args => exact h.print _
  | println template args => exact h.println _
  | newline => exact h.newline
  | reference type keep => exact h.reference type keep
  | references types keep => exact h.references types keep
  | printClass type => exact (h.reference type 1).print _
  | docComment text args => exact h.docComment text args
  | header text args => exact h.header text args
  | override wanted => exact h.override wanted
  | overrideInherited wanted => exact h.newline.override wanted
  | serial => exact h.serial
  | package name => exact absurd rfl (hcall name)
  | imports => exact h.imports

/-- Calls that declare no package, however many, leave the beginning of a file alone. -/
theorem run (h : writer.Begun dialect scope start) {calls : List Call}
    (hcalls : ∀ name, .package name ∉ calls) :
    (writer.run calls).2.Begun dialect scope start := by
  induction calls generalizing writer with
  | nil => exact h
  | cons call calls ih =>
    have hcall : ∀ name, call ≠ .package name := by
      rintro name rfl
      exact hcalls name (by simp)
    exact ih (h.perform hcall) fun name hname => hcalls name (by simp [hname])

end Begun

/-! ## The beginning of a file -/

/-- The rules for references are those of the policy that they are created with. -/
theorem policy_of_create {policy : Policy} {excluded : Option Text} {resolver : Resolver}
    (h : Resolver.create policy excluded = .ok resolver) : resolver.policy = policy := by
  unfold Resolver.create at h
  split at h
  · cases h
    rfl
  · split at h
    · cases h
      rfl
    · exact absurd h (by simp)

/-- A file starts empty, with the class and the policy that its path asks for. -/
theorem of_create {path className : Text} {config : Config} {order : ImportOrder}
    (hpath : Dialect.forPath path = .ok (dialect, className))
    (hcreate : create path config order = .ok writer) :
    writer.dialect = dialect ∧ writer.resolver.policy = dialect.policy ∧
      writer.scope = ⟨className, none⟩ ∧ writer.table = .empty ∧
      ∃ indent, writer.layout = { indent := indent, newline := config.newline } := by
  simp only [create, hpath, Except.mapError, bind, Except.bind] at hcreate
  split at hcreate
  · exact absurd hcreate (by simp)
  · next resolver hresolver =>
    split at hcreate
    · exact absurd hcreate (by simp)
    · cases hcreate
      exact ⟨rfl, policy_of_create hresolver, rfl, rfl, _, rfl⟩

/-- A statement that declares a package ends with a character of its own: neither white space nor an
opening brace. -/
theorem exists_concat_packageStatement (dialect : Dialect) {names : List Text}
    (h : IsPath names) :
    ∃ front last, dialect.policy.packageStatement (Text.dotted names) = front ++ [last] ∧
      Unicode.isBlank last = false ∧ last ≠ '\x7b' := by
  obtain ⟨front, last, hconcat, hlast⟩ := h.exists_concat
  have hblank := Identifier.isBlank_of_continues hlast
  have hbrace : last ≠ '\x7b' := Identifier.ne_of_continues hlast (by decide)
  have hbare : ∃ front' last', "package ".toList ++ Text.dotted names ++ [] = front' ++ [last'] ∧
      Unicode.isBlank last' = false ∧ last' ≠ '\x7b' :=
    ⟨"package ".toList ++ front, last, by rw [hconcat]; simp, hblank, hbrace⟩
  cases dialect with
  | java =>
    exact ⟨"package ".toList ++ Text.dotted names, ';', rfl, by decide, by decide⟩
  | scala => exact hbare
  | kotlin => exact hbare

/-- The statement is one line without white space at its end. -/
theorem linesOf_packageStatement (dialect : Dialect) {names : List Text} (h : IsPath names) :
    Layout.linesOf (dialect.policy.packageStatement (Text.dotted names)) =
      [dialect.policy.packageStatement (Text.dotted names)] := by
  obtain ⟨front, last, hconcat, hblank, -⟩ := exists_concat_packageStatement dialect h
  have hsplit := Text.split_of_not_mem (newline_not_mem_packageStatement dialect h)
  rw [Layout.linesOf, hsplit, List.map_singleton, hconcat, Layout.dropReturn_of_last hblank]

/-- The statement is laid out as it is, at any depth. -/
theorem goneOn_packageStatement (dialect : Dialect) {names : List Text} (h : IsPath names)
    {layout : Layout} (hstart : layout.line = []) :
    layout.GoneOn (layout.println (dialect.policy.packageStatement (Text.dotted names)))
      (Text.times layout.depth layout.indent ++
        dialect.policy.packageStatement (Text.dotted names) ++ layout.newline) layout.depth := by
  obtain ⟨front, last, hconcat, hblank, hbrace⟩ := exists_concat_packageStatement dialect h
  obtain ⟨rest, hcons⟩ : ∃ rest, dialect.policy.packageStatement (Text.dotted names) =
    'p' :: rest := ⟨_, rfl⟩
  have htrim : Text.trim (dialect.policy.packageStatement (Text.dotted names)) =
      dialect.policy.packageStatement (Text.dotted names) :=
    Text.trim_of_ends hcons hconcat (by decide) hblank
  apply Layout.goneOn_println_of_plain hstart _ (linesOf_packageStatement dialect h)
  · rw [hconcat, Text.trimEnd_of_last hblank]
  · rw [htrim, hcons]
    rfl
  · rw [htrim, hconcat, List.getLast?_concat]
    exact fun h => hbrace (Option.some.inj h)

/-- Declaring the package begins a file with that declaration. -/
theorem begun_package {path className : Text} {config : Config} {order : ImportOrder}
    (hpath : Dialect.forPath path = .ok (dialect, className))
    (hcreate : create path config order = .ok writer) {names : List Text} (h : IsPath names) :
    (writer.package (Text.dotted names)).Begun dialect ⟨className, some (Text.dotted names)⟩
      (dialect.policy.packageStatement (Text.dotted names) ++ config.newline) := by
  obtain ⟨hdialect, hpolicy, hscope, htable, indent, hlayout⟩ := of_create hpath hcreate
  constructor
  · exact hdialect
  · exact hpolicy
  · show ({ writer.scope with package := some (Text.dotted names) } : Scope) = _
    rw [hscope]
  · show writer.table.Sound _
    rw [htable]
    intro binding hbinding
    exact absurd hbinding List.not_mem_nil
  · show _ <+: (writer.layout.println
      (writer.dialect.policy.packageStatement (Text.dotted names))).document.text
    have hline : writer.layout.line = [] := by rw [hlayout]
    have hgone := goneOn_packageStatement dialect h hline
    rw [hdialect, hgone.text, hlayout]
    exact List.prefix_refl _

/-! ## Complete files -/

/-- In a file whose first call declares its package, and that makes no other such call, the package
that is found is the one that was declared. Every binding is accounted for exactly once, and no two
imports bring in the same simple name, or that of the class of the file. -/
theorem imports_accounted {path className package : Text} {config : Config} {order : ImportOrder}
    {calls : List Call} (hpath : Dialect.forPath path = .ok (dialect, className))
    (hclass : '.' ∉ className) (hnewline : config.newline = ['\n'] ∨ config.newline = ['\r', '\n'])
    (hpackage : (pathNames? package).isSome = true) (hcreate : create path config order = .ok writer)
    (hcalls : ∀ name, .package name ∉ calls) :
    let file := (writer.run (.package package :: calls)).2.finish
    let block := file.content.imports
    file.content.package = some package ∧
      (∀ binding ∈ file.table.bindings,
        block.Accounts dialect.policy package className binding.2 ∧
          block.emitted.count binding.2 + (block.elided.map Prod.fst).count binding.2 = 1) ∧
      (block.emitted.map Text.lastSegment).Nodup ∧
      className ∉ block.emitted.map Text.lastSegment := by
  intro file block
  obtain ⟨names, hnames⟩ := Option.isSome_iff_exists.mp hpackage
  obtain ⟨hisPath, rfl⟩ := pathNames?_eq_some_iff.mp hnames
  have hbegun := (begun_package hpath hcreate hisPath).run hcalls
  have hfound : file.content.package = some (Text.dotted names) :=
    declaredPackage?_of_prefix dialect hisPath hnewline
      (hbegun.starts.trans (Layout.prefix_finish _))
  have hsound : file.table.Sound ⟨className, some (Text.dotted names)⟩ := hbegun.sound
  -- the block is that of the table in the package that was found
  let style := (writer.run (.package (Text.dotted names) :: calls)).2.importStyle
  have hblock : block = style.block file.table (some (Text.dotted names)) := by
    rw [← hfound]
    rfl
  have hpolicy : style.policy = dialect.policy := congrArg Dialect.policy hbegun.dialect_eq
  have hname : style.className = className := congrArg Scope.className hbegun.scope_eq
  have hclass' : '.' ∉ style.className := by rwa [hname]
  refine ⟨hfound, ?_, ?_, ?_⟩
  · intro binding hbinding
    have hbound := hsound binding hbinding
    rw [← hname] at hbound
    have haccounts := ImportStyle.accounts_of_names hclass' hbound hbinding
    rw [hpolicy, hname, ← hblock] at haccounts
    rw [hblock]
    exact ⟨hblock ▸ haccounts, ImportStyle.count_block style _ hbinding⟩
  · rw [hblock]
    exact ImportStyle.nodup_lastSegments hsound
  · rw [hblock, ← hname]
    exact ImportStyle.className_not_mem_lastSegments hsound

/-- No call changes the order of the imports. -/
theorem order_run (writer : Writer) (calls : List Call) :
    (writer.run calls).2.order = writer.order := by
  induction calls generalizing writer with
  | nil => rfl
  | cons call calls ih =>
    refine (ih (writer.perform call).2).trans ?_
    cases call with
    | docComment text args =>
      simp only [perform, docComment]
      split <;> rfl
    | override wanted => cases wanted <;> rfl
    | overrideInherited wanted => cases wanted <;> rfl
    | serial =>
      simp only [perform, serial]
      split <;> rfl
    | _ => rfl

/-- By code point, the import block is that of the names as the table has them. -/
theorem imports_finish (h : writer.order = .lexical) :
    writer.finish.content.imports = writer.importStyle.blockFrom
      (declaredPackage? writer.layout.finish.text) [] writer.table.qualifiedNames := by
  rw [← ImportTable.ordered_lexical, ← h]
  rfl

/-- The text of a complete file is what has been laid out, with the import block and the hash code
in the places that are reserved for them. -/
theorem text_finish (writer : Writer) :
    writer.finish.content.text = writer.layout.finish.render fun
      | .imports => writer.finish.content.imports.text
      | .serial => Text.decimal (hashCode writer.layout.finish.text).toInt := rfl

/-- A file with two types of one name, a type of its package and its own class. One of the two types
is imported and the other one is written in full; the type of the package and the class need no
import. -/
theorem imports_accounted_main :
    ∃ writer,
      create "src/Main.java".toList {} .lexical = .ok writer ∧
      let file := (writer.run [.package "com.acme".toList, .imports,
        .printClass "java.util.Map<com.acme.Row,org.other.Map>".toList,
        .printClass "com.acme.Main".toList]).2.finish
      let block := file.content.imports
      file.table.bindings =
          [("Main", "com.acme.Main"), ("Map", "java.util.Map"), ("Row", "com.acme.Row")].map
            (fun binding => (binding.1.toList, binding.2.toList)) ∧
        block = {
          text := "\nimport java.util.Map;\n".toList
          emitted := ["java.util.Map".toList]
          elided := [("com.acme.Main".toList, .ownClass), ("com.acme.Row".toList, .samePackage)] } ∧
        file.content.text =
          "package com.acme;\n\nimport java.util.Map;\n\nMap<Row, org.other.Map>Main".toList ∧
        file.content.package = some "com.acme".toList ∧
        (∀ binding ∈ file.table.bindings,
          block.Accounts Dialect.java.policy "com.acme".toList "Main".toList binding.2 ∧
            block.emitted.count binding.2 +
              (block.elided.map Prod.fst).count binding.2 = 1) ∧
        (block.emitted.map Text.lastSegment).Nodup ∧
        "Main".toList ∉ block.emitted.map Text.lastSegment := by
  have hpath : Dialect.forPath "src/Main.java".toList = .ok (.java, "Main".toList) := by rfl
  have hclass : '.' ∉ "Main".toList := by decide
  have hpackage : (pathNames? "com.acme".toList).isSome = true := by rfl
  let writer : Writer := {
    path := "src/Main.java".toList
    dialect := .java
    scope := ⟨"Main".toList, none⟩
    resolver := ⟨Dialect.java.policy, none⟩
    table := .empty
    order := .lexical
    layout := { indent := List.replicate 4 ' ', newline := ['\n'] }
    docComments := true
    charset := .utf8 }
  have hcreate : create "src/Main.java".toList {} .lexical = .ok writer := by rfl
  let calls : List Call := [.package "com.acme".toList, .imports,
    .printClass "java.util.Map<com.acme.Row,org.other.Map>".toList,
    .printClass "com.acme.Main".toList]
  have horder : (writer.run calls).2.order = .lexical := writer.order_run calls
  have hblock : (writer.run calls).2.finish.content.imports = {
      text := "\nimport java.util.Map;\n".toList
      emitted := ["java.util.Map".toList]
      elided := [("com.acme.Main".toList, .ownClass), ("com.acme.Row".toList, .samePackage)] } := by
    rw [imports_finish horder]
    decide +kernel
  refine ⟨writer, hcreate, by decide +kernel, hblock, ?_,
    imports_accounted hpath hclass (Or.inl rfl) hpackage hcreate (by simp)⟩
  rw [text_finish, hblock]
  decide +kernel

end JvmSource.Writer
