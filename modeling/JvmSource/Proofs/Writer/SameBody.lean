import Mathlib.Tactic.Common
import JvmSource.Proofs.Layout.Readings
import JvmSource.Proofs.Writer.Layout

/-!
# What depends on the body only

Resolving references changes the table of a writer and nothing that has been laid out. So two runs
with the same body, whatever else they resolve on the way and however they sort imports, lead to one
document, and differ in the import blocks that it is filled with and in nothing else. The package
and the serial version are read off the document without its marks, which no import can reach.
-/

namespace JvmSource

/-! ## Filled documents -/

/-- Rendering depends only on what the marks of a document are filled with. -/
theorem Document.render_congr {document : Document} {fill fill' : Mark → Text}
    (h : ∀ mark ∈ document.marks, fill mark = fill' mark) :
    document.render fill = document.render fill' := by
  rw [render_eq_symbols, render_eq_symbols]
  apply List.flatMap_congr
  intro symbol hsymbol
  cases symbol with
  | char c => rfl
  | mark place => exact h place (List.mem_flatMap.mpr ⟨_, hsymbol, List.mem_singleton_self place⟩)

/-- What the marks of a complete file have been filled with. -/
def FilledDocument.filling (content : FilledDocument) : Mark → Text
  | .imports => content.imports.text
  | .serial => Text.decimal (content.serial.getD 0).toInt

/-- A complete file is its document with the import block and the serial version put in. -/
theorem ImportStyle.text_fill (style : ImportStyle) (document : Document) (table : ImportTable) :
    (style.fill document table).text =
      document.render (style.fill document table).filling := by
  apply Document.render_congr
  intro place hplace
  cases place with
  | imports => rfl
  | serial =>
    have hserial : (style.fill document table).serial = some (hashCode document.text) :=
      if_pos (Document.has_eq_true_iff.mpr hplace)
    show _ = Text.decimal (Option.getD (style.fill document table).serial 0).toInt
    rw [hserial]
    rfl

/-- The serial version is the hash of the unfilled text, and is there when the document has a mark
for it. -/
theorem ImportStyle.serial_fill_eq_some_iff (style : ImportStyle) (document : Document)
    (table : ImportTable) (id : Int32) :
    (style.fill document table).serial = some id ↔
      .serial ∈ document.marks ∧ id = hashCode document.text := by
  rw [← Document.has_eq_true_iff]
  show (if document.has .serial = true then some (hashCode document.text) else none) = some id ↔ _
  split
  · next hhas => simp [hhas, eq_comm]
  · next hhas => simp [hhas]

/-! ## Calls -/

namespace Call

/-- Whether what a call writes has nothing to do with references. -/
def isBody : Call → Bool
  | reference _ _ => false
  | references _ _ => false
  | printClass _ => false
  | _ => true

/-- The marks that a call places in a file of a dialect. -/
def marks (dialect : Dialect) : Call → List Mark
  | serial => if dialect.policy.serialVersion then [.serial] else []
  | imports => [.imports]
  | _ => []

end Call

/-- Only Java has serial versions. -/
theorem Dialect.serialVersion_eq_true_iff {dialect : Dialect} :
    dialect.policy.serialVersion = true ↔ dialect = java := by
  cases dialect <;> decide

/-- Calls leave a mark for the serial version when they ask for it in Java. -/
theorem Call.serial_mem_marks_iff {dialect : Dialect} {calls : List Call} :
    .serial ∈ calls.flatMap (marks dialect) ↔ dialect = .java ∧ .serial ∈ calls := by
  rw [← Dialect.serialVersion_eq_true_iff, List.mem_flatMap]
  constructor
  · intro ⟨call, hcall, hmark⟩
    cases call with
    | serial =>
      by_cases hversion : dialect.policy.serialVersion = true
      · exact ⟨hversion, hcall⟩
      · rw [marks, if_neg hversion] at hmark
        exact absurd hmark List.not_mem_nil
    | imports => exact absurd (List.mem_singleton.mp hmark) (by decide)
    | _ => exact absurd hmark List.not_mem_nil
  · intro ⟨hversion, hcall⟩
    refine ⟨.serial, hcall, ?_⟩
    rw [marks, if_pos hversion]
    exact List.mem_singleton_self _

namespace Writer

variable {writer other : Writer}

/-- The layout calls of a call leave the marks of the call. -/
theorem marks_layoutCalls (writer : Writer) (call : Call) :
    (writer.layoutCalls call).flatMap LayoutCall.marks = call.marks writer.dialect := by
  cases call with
  | docComment text args =>
    rw [layoutCalls]
    split <;> rfl
  | override wanted => cases wanted <;> rfl
  | overrideInherited wanted => cases wanted <;> rfl
  | serial =>
    rw [layoutCalls, Call.marks]
    split <;> rfl
  | _ => rfl

/-- The layout calls of a run leave the marks of all its calls. -/
theorem marks_allLayoutCalls (writer : Writer) (calls : List Call) :
    (writer.allLayoutCalls calls).flatMap LayoutCall.marks =
      calls.flatMap (Call.marks writer.dialect) := by
  induction calls generalizing writer with
  | nil => rfl
  | cons call calls ih =>
    rw [allLayoutCalls, List.flatMap_append, marks_layoutCalls, ih, dialect_perform,
      List.flatMap_cons]

/-! ## Runs with the same body -/

/-- Whether two writers have written the same, and will write the same in answer to the same calls,
if these have nothing to do with references. -/
structure LaysAlike (writer other : Writer) : Prop where
  dialect : writer.dialect = other.dialect
  docComments : writer.docComments = other.docComments
  layout : writer.layout = other.layout

namespace LaysAlike

theorem refl (writer : Writer) : writer.LaysAlike writer := ⟨rfl, rfl, rfl⟩

theorem symm (h : writer.LaysAlike other) : other.LaysAlike writer :=
  ⟨h.dialect.symm, h.docComments.symm, h.layout.symm⟩

theorem trans {third : Writer} (h : writer.LaysAlike other) (h' : other.LaysAlike third) :
    writer.LaysAlike third :=
  ⟨h.dialect.trans h'.dialect, h.docComments.trans h'.docComments, h.layout.trans h'.layout⟩

/-- Writers that write alike lay out a body call in the same way. -/
theorem layoutCalls_eq (h : writer.LaysAlike other) {call : Call} (hcall : call.isBody = true) :
    writer.layoutCalls call = other.layoutCalls call := by
  apply layoutCalls_congr h.dialect
  · rintro type rfl
    exact absurd hcall Bool.false_ne_true
  · intro _ _ _
    exact h.docComments

/-- Writers that write alike still do so after the same body call. -/
theorem perform (h : writer.LaysAlike other) {call : Call} (hcall : call.isBody = true) :
    (writer.perform call).2.LaysAlike (other.perform call).2 where
  dialect := by rw [dialect_perform, dialect_perform, h.dialect]
  docComments := by rw [docComments_perform, docComments_perform, h.docComments]
  layout := by rw [layout_perform, layout_perform, h.layout, h.layoutCalls_eq hcall]

/-- Resolving references leaves what has been written as it is. -/
theorem perform_left (h : writer.LaysAlike other) {call : Call} (hcall : call.isBody = false)
    (hclass : ∀ type, call ≠ .printClass type) : (writer.perform call).2.LaysAlike other := by
  have hsteps : writer.layoutCalls call = [] := by
    cases call with
    | reference | references => rfl
    | printClass type => exact absurd rfl (hclass type)
    | _ => exact absurd hcall.symm Bool.false_ne_true
  constructor
  · rw [dialect_perform, h.dialect]
  · rw [docComments_perform, h.docComments]
  · rw [layout_perform, hsteps]
    exact h.layout

/-- A run leads to what its body alone leads to. -/
theorem run (h : writer.LaysAlike other) {calls : List Call}
    (hclass : ∀ type, .printClass type ∉ calls) :
    (writer.run calls).2.LaysAlike (other.run (calls.filter Call.isBody)).2 := by
  induction calls generalizing writer other with
  | nil => exact h
  | cons call calls ih =>
    have hrest : ∀ type, .printClass type ∉ calls := by
      intro type hmem
      exact hclass type (List.mem_cons_of_mem _ hmem)
    by_cases hcall : call.isBody = true
    · rw [List.filter_cons_of_pos hcall]
      exact ih (h.perform hcall) hrest
    · have hfirst : ∀ type, call ≠ .printClass type := by
        intro type heq
        exact hclass type (by simp [heq])
      rw [List.filter_cons_of_neg hcall]
      -- what is no body call leaves what is written as it is
      exact ih (h.perform_left (Bool.not_eq_true _ ▸ hcall) hfirst) hrest

/-- How imports are sorted decides about nothing that a writer lays out. -/
theorem of_create {path : Text} {config : Config} {order order' : ImportOrder}
    (hcreate : create path config order = .ok writer)
    (hcreate' : create path config order' = .ok other) : writer.LaysAlike other := by
  have hmap := create_eq_map path config order order' config.docComments
  have hsame : ({ config with docComments := config.docComments } : Config) = config := rfl
  rw [hsame, hcreate, hcreate'] at hmap
  obtain rfl := Except.ok.inj hmap
  exact ⟨rfl, docComments_of_create hcreate, rfl⟩

end LaysAlike

/-- Two runs for one path that make the same calls, but for what they resolve and how they sort,
give one document with one package and one serial version; only the import blocks that it is filled
with may differ. It has a serial version exactly when it is a Java class that asks for one: the hash
code of the document with nothing filled in. -/
theorem content_of_same_body {path : Text} {config : Config} {order order' : ImportOrder}
    {writer writer' : Writer} (hcreate : create path config order = .ok writer)
    (hcreate' : create path config order' = .ok writer') {calls calls' : List Call}
    (hclass : ∀ type, .printClass type ∉ calls) (hclass' : ∀ type, .printClass type ∉ calls')
    (hbody : calls.filter Call.isBody = calls'.filter Call.isBody) :
    let file := (writer.run calls).2.finish
    let file' := (writer'.run calls').2.finish
    let document := (writer.run calls).2.layout.finish
    file.content.package = file'.content.package ∧
      file.content.serial = file'.content.serial ∧
      (∀ id, file.content.serial = some id ↔
        file.dialect = .java ∧ .serial ∈ calls ∧ id = hashCode document.text) ∧
      document.marks = calls.flatMap (Call.marks file.dialect) ∧
      file.content.text = document.render file.content.filling ∧
      file'.content.text = document.render file'.content.filling := by
  intro file file' document
  have hstart : writer.LaysAlike writer' := .of_create hcreate hcreate'
  -- both runs lead to what the body alone leads to
  have hbodies : (writer.run calls).2.LaysAlike (writer'.run calls').2 := by
    have hrun := hstart.run hclass
    rw [hbody] at hrun
    exact hrun.trans ((LaysAlike.refl writer').run hclass').symm
  have hdocument : (writer'.run calls').2.layout.finish = document :=
    congrArg Layout.finish hbodies.layout.symm
  have hmarks : document.marks = calls.flatMap (Call.marks file.dialect) := by
    obtain ⟨indent, hlayout⟩ := layout_of_create hcreate
    have hdialect : file.dialect = writer.dialect := dialect_run writer calls
    rw [hdialect, ← marks_allLayoutCalls, ← Layout.marks_finish indent config.newline, ← hlayout,
      ← layout_run]
  refine ⟨?_, ?_, ?_, hmarks, ImportStyle.text_fill _ _ _, ?_⟩
  · show declaredPackage? document.text = declaredPackage? _
    rw [hdocument]
  · show (if document.has .serial = true then some (hashCode document.text) else none) = _
    rw [← hdocument]
    rfl
  · intro id
    have hserial := ImportStyle.serial_fill_eq_some_iff (writer.run calls).2.importStyle document
      (writer.run calls).2.table id
    rw [hmarks, Call.serial_mem_marks_iff, and_assoc] at hserial
    exact hserial
  · rw [← hdocument]
    -- one document, filled with the blocks of the second run
    exact ImportStyle.text_fill _ _ _

/-- A class with two serial versions and two import blocks, one of them between braces, that is
sorted in two ways and in which other types are resolved. -/
theorem content_of_same_body_orders :
    let calls : List Call := [.package "a".toList, .reference "b.X<c.Y>".toList 1, .imports,
      .docComment "package p;".toList [], .println "class Main \x7b".toList [], .serial,
      .references ["d.Z".toList, "a.W".toList] 1, .print "int i;".toList [], .imports, .serial,
      .println "\x7d".toList []]
    let calls' : List Call := [.package "a".toList, .imports, .docComment "package p;".toList [],
      .println "class Main \x7b".toList [], .serial, .print "int i;".toList [], .imports, .serial,
      .reference "java.util.Map.Entry".toList 2, .println "\x7d".toList []]
    ∃ writer writer', create "Main.java".toList {} .lexical = .ok writer ∧
      create "Main.java".toList {} .javaFirst = .ok writer' ∧
      let file := (writer.run calls).2.finish
      let file' := (writer'.run calls').2.finish
      let document := (writer.run calls).2.layout.finish
      file.table.bindings ≠ file'.table.bindings ∧
        file.content.package = file'.content.package ∧
        file.content.serial = file'.content.serial ∧
        (∀ id, file.content.serial = some id ↔
          file.dialect = .java ∧ .serial ∈ calls ∧ id = hashCode document.text) ∧
        document.marks = calls.flatMap (Call.marks file.dialect) ∧
        file.content.text = document.render file.content.filling ∧
        file'.content.text = document.render file'.content.filling := by
  intro calls calls'
  obtain ⟨writer, writer', hcreate, hcreate', hbindings⟩ : ∃ writer writer',
      create "Main.java".toList {} .lexical = .ok writer ∧
      create "Main.java".toList {} .javaFirst = .ok writer' ∧
      (writer.run calls).2.finish.table.bindings ≠
        (writer'.run calls').2.finish.table.bindings := by
    refine ⟨_, _, rfl, rfl, ?_⟩
    decide +kernel
  have hclass : ∀ type, .printClass type ∉ calls := by
    intro type
    simp [calls]
  have hclass' : ∀ type, .printClass type ∉ calls' := by
    intro type
    simp [calls']
  have hbody : calls.filter Call.isBody = calls'.filter Call.isBody := rfl
  exact ⟨writer, writer', hcreate, hcreate', hbindings,
    content_of_same_body hcreate hcreate' hclass hclass' hbody⟩

end Writer

end JvmSource
