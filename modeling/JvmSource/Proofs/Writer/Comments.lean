import Mathlib.Tactic.Common
import JvmSource.Proofs.Layout.Comments
import JvmSource.Proofs.Writer.Layout

/-!
# With and without comments

Whether comments are wanted decides about the lines of comments and nothing else: references are
resolved alike, and the other lines are the same. They are laid out the same as well as long as
every comment leaves the depth as it was. A comment can change it: the law of braces is the same for
the lines of comments as for all other lines.
-/

namespace JvmSource

theorem LayoutCall.allLines_println (text : Text) (calls : List LayoutCall) :
    allLines (.println text :: calls) = Line.ofText text ++ allLines calls := by
  obtain ⟨first, later, hcalls⟩ := List.exists_cons_of_ne_nil (allLines_ne_nil calls)
  rw [allLines, hcalls]
  exact Text.joinEnds_concat (Line.ofText text) [] first later

namespace Call

/-- The lines of the comment that a call writes. -/
def commentLines : Call → List Line
  | docComment text args =>
    Text.symbols "/**".toList ::
      (Line.ofText (Template.format (" * ".toList ++ DocComment.escape text)
        (DocComment.escapeArgs args)) ++ [Text.symbols " */".toList])
  | _ => []

/-- The scope after a call. -/
def scopeAfter (scope : Scope) : Call → Scope
  | package name => { scope with package := some name }
  | _ => scope

/-- A doc comment call lays out the lines of the comment, and leaves an empty line. -/
theorem allLines_commentSteps (text : Text) (args : List Arg) :
    LayoutCall.allLines (commentSteps text args) = (docComment text args).commentLines ++ [[]] := by
  have hopen : Line.ofText "/**".toList = [Text.symbols "/**".toList] := rfl
  have hclose : Line.ofText " */".toList = [Text.symbols " */".toList] := rfl
  rw [commentSteps, LayoutCall.allLines_println, LayoutCall.allLines_println,
    LayoutCall.allLines_println, hopen, hclose, commentLines]
  simp only [List.cons_append, List.nil_append, List.append_assoc, LayoutCall.allLines]

end Call

namespace Writer

variable {on off : Writer}

/-- Only a package call changes the scope. -/
theorem scope_perform (writer : Writer) (call : Call) :
    (writer.perform call).2.scope = call.scopeAfter writer.scope := by
  cases call with
  | docComment text args =>
    unfold perform docComment
    simp only
    split <;> rfl
  | override wanted => cases wanted <;> rfl
  | overrideInherited wanted => cases wanted <;> rfl
  | serial =>
    unfold perform serial
    simp only
    split <;> rfl
  | _ => rfl

/-- Whether a call that writes a comment ends it at the depth at which it starts. -/
def LevelComment (writer : Writer) : Call → Prop
  | .docComment text args =>
    (writer.docComment text args).layout.depth = writer.newline.layout.depth
  | _ => True

/-- Whether every comment of a run ends at the depth at which it starts. -/
def LevelComments : Writer → List Call → Prop
  | _, [] => True
  | writer, call :: calls => writer.LevelComment call ∧ (writer.perform call).2.LevelComments calls

instance (writer : Writer) (call : Call) : Decidable (writer.LevelComment call) := by
  cases call with
  | docComment text args => exact inferInstanceAs (Decidable (_ = _))
  | _ => exact .isTrue trivial

instance decidableLevelComments : (writer : Writer) → (calls : List Call) →
    Decidable (writer.LevelComments calls)
  | _, [] => .isTrue trivial
  | writer, call :: calls =>
    have := decidableLevelComments (writer.perform call).2 calls
    inferInstanceAs (Decidable (writer.LevelComment call ∧ _))

/-- Whether two writers differ in the comments that they have written and will write only. -/
structure ButForComments (on off : Writer) : Prop where
  dialect : on.dialect = off.dialect
  scope : on.scope = off.scope
  resolver : on.resolver = off.resolver
  table : on.table = off.table
  wanted : on.docComments = true
  unwanted : off.docComments = false
  line : on.layout.line.symbols = off.layout.line.symbols
  normal : on.layout.IsNormal
  normal' : off.layout.IsNormal

namespace ButForComments

/-- Two writers that differ in whether they write doc comments start out alike. -/
theorem of_create {path : Text} {config : Config} {order : ImportOrder}
    (hon : create path { config with docComments := true } order = .ok on)
    (hoff : create path { config with docComments := false } order = .ok off) :
    on.ButForComments off ∧ on.layout = off.layout := by
  have hmap := create_eq_map path { config with docComments := false } order order true
  have hsame : ({ ({ config with docComments := false } : Config) with docComments := true } :
    Config) = { config with docComments := true } := rfl
  rw [hsame, hon, hoff] at hmap
  obtain rfl := Except.ok.inj hmap
  obtain ⟨indent, hlayout⟩ := layout_of_create hoff
  have hnormal : off.layout.IsNormal := by
    rw [hlayout]
    exact Layout.isNormal_new indent config.newline
  exact ⟨⟨rfl, rfl, rfl, rfl, rfl, docComments_of_create hoff, rfl, hnormal, hnormal⟩, rfl⟩

/-- References are resolved alike. -/
theorem answers_eq (h : on.ButForComments off) (call : Call) :
    (on.perform call).1 = (off.perform call).1 := by
  cases call with
  | reference type keep =>
    simp only [Writer.perform, Writer.reference, h.resolver, h.scope, h.table]
  | references types keep =>
    simp only [Writer.perform, Writer.references, h.resolver, h.scope, h.table]
  | _ => rfl

/-- Calls that write no comment take the same steps. -/
theorem layoutCalls_eq (h : on.ButForComments off) {call : Call}
    (hcall : ∀ text args, call ≠ .docComment text args) :
    on.layoutCalls call = off.layoutCalls call := by
  apply layoutCalls_congr h.dialect
  · rintro type rfl
    simp only [Writer.reference, h.resolver, h.scope, h.table]
  · intro text args heq
    exact absurd heq (hcall text args)

/-- A call for a comment ends the line in both files, and one of them gets the lines of the
comment. -/
theorem exists_lines_docComment (h : on.ButForComments off) (text : Text) (args : List Arg) :
    ∃ lines, Layout.BothLayOut on.layout off.layout (on.perform (.docComment text args)).2.layout
        (off.perform (.docComment text args)).2.layout lines ∧
      (FileLine.commentsOf lines).map FileLine.symbols = (Call.docComment text args).commentLines ∧
      (on.LevelComment (.docComment text args) →
        ∀ indent, FileLine.Level indent on.layout.depth lines) := by
  have hon : (on.perform (.docComment text args)).2.layout =
      (on.layout.run [.endLine]).run (Call.commentSteps text args) := by
    rw [layout_perform, layoutCalls, if_pos h.wanted, ← Layout.run_append, List.singleton_append]
  have hoff : (off.perform (.docComment text args)).2.layout = off.layout.run [.endLine] := by
    rw [layout_perform, layoutCalls, if_neg (Bool.eq_false_iff.mp h.unwanted)]
  -- both files end the line, and the comment comes after it in one of them
  obtain ⟨ended, hcode⟩ := Layout.BothLayOut.run h.normal h.normal' h.line [.endLine]
  have hcomment := Layout.BothLayOut.run_comment hcode.on.normal hcode.off.normal rfl rfl
    (Call.allLines_commentSteps text args)
  rw [hon, hoff]
  refine ⟨ended.map FileLine.code ++ (Call.docComment text args).commentLines.map FileLine.comment,
    hcode.trans hcomment, ?_, ?_⟩
  · rw [FileLine.commentsOf_append, FileLine.commentsOf_code, FileLine.commentsOf_comment,
      List.nil_append, FileLine.map_symbols_comment]
  · intro hlevel indent
    -- the comment ends at the depth at which it starts
    have hkept : (on.perform (.docComment text args)).2.layout.depth =
        on.newline.layout.depth := hlevel
    have hstarted : on.newline.layout = on.layout.run [.endLine] := rfl
    have hstart := hcode.on.depth
    have hend := hcomment.on.depth
    rw [FileLine.map_symbols_comment, ← hon, hkept, hstarted] at hend
    apply (FileLine.Level.code indent on.layout.depth ended).append
    apply FileLine.Level.comment
    rw [FileLine.depthAfter, ← hstart]
    exact hend.symm

/-- What a call writes with comments and without them. -/
theorem exists_lines_perform (h : on.ButForComments off) (call : Call) :
    ∃ lines, Layout.BothLayOut on.layout off.layout (on.perform call).2.layout
        (off.perform call).2.layout lines ∧
      (FileLine.commentsOf lines).map FileLine.symbols = call.commentLines ∧
      (on.LevelComment call → ∀ indent, FileLine.Level indent on.layout.depth lines) := by
  by_cases hcall : ∃ text args, call = .docComment text args
  · obtain ⟨text, args, rfl⟩ := hcall
    exact h.exists_lines_docComment text args
  · have hother : ∀ text args, call ≠ .docComment text args := by
      intro text args heq
      exact hcall ⟨text, args, heq⟩
    -- any other call writes no lines of a comment, and lays out the same in both
    have hnone : call.commentLines = [] := by
      cases call with
      | docComment text args => exact absurd rfl (hother text args)
      | _ => rfl
    rw [layout_perform, layout_perform, h.layoutCalls_eq hother]
    obtain ⟨ended, hcode⟩ := Layout.BothLayOut.run h.normal h.normal' h.line (off.layoutCalls call)
    refine ⟨_, hcode, ?_, ?_⟩
    · rw [FileLine.commentsOf_code, hnone]
      rfl
    · intro _ indent
      exact .code indent on.layout.depth ended

/-- The same call keeps two writers alike, doc comments apart. -/
theorem perform (h : on.ButForComments off) (call : Call) :
    (on.perform call).2.ButForComments (off.perform call).2 := by
  obtain ⟨lines, hboth, -⟩ := h.exists_lines_perform call
  constructor
  · rw [dialect_perform, dialect_perform, h.dialect]
  · rw [scope_perform, scope_perform, h.scope]
  · rw [resolver_perform, resolver_perform, h.resolver]
  · rw [table_perform, table_perform, h.resolver, h.table, h.scope]
  · rw [docComments_perform, h.wanted]
  · rw [docComments_perform, h.unwanted]
  · exact hboth.line
  · exact hboth.on.normal
  · exact hboth.off.normal

/-- The same calls give the same answers and lay out the same lines, doc comments apart. -/
theorem run (h : on.ButForComments off) (calls : List Call) :
    (on.run calls).1 = (off.run calls).1 ∧
    (on.run calls).2.ButForComments (off.run calls).2 ∧
    ∃ lines, Layout.BothLayOut on.layout off.layout (on.run calls).2.layout
        (off.run calls).2.layout lines ∧
      (FileLine.commentsOf lines).map FileLine.symbols = calls.flatMap Call.commentLines ∧
      (on.LevelComments calls → ∀ indent, FileLine.Level indent on.layout.depth lines) := by
  induction calls generalizing on off with
  | nil =>
    refine ⟨rfl, h, [], .refl h.normal h.normal' h.line, rfl, ?_⟩
    intro _ indent
    exact ⟨rfl, rfl⟩
  | cons call calls ih =>
    obtain ⟨lines, hboth, hcomments, hlevels⟩ := h.exists_lines_perform call
    -- the lines of the first call come before those of the others
    obtain ⟨hanswers, hrest, more, hboth', hcomments', hlevels'⟩ := ih (h.perform call)
    refine ⟨?_, hrest, lines ++ more, hboth.trans hboth', ?_, ?_⟩
    · rw [answers_run_cons, answers_run_cons, h.answers_eq call, hanswers]
    · rw [FileLine.commentsOf_append, List.map_append, hcomments, hcomments', List.flatMap_cons]
    · intro hlevel indent
      have hdepth : (on.perform call).2.layout.depth = FileLine.depthAfter on.layout.depth lines :=
        hboth.on.depth
      have hmore := hlevels' hlevel.2 indent
      rw [hdepth] at hmore
      exact (hlevels hlevel.1 indent).append hmore

end ButForComments

/-- With comments and without them, references are answered alike and lead to the same table, and
the same lines are written but for those of the comments. Each line is laid out by the law of braces
for the lines of its file, so that the lines that are no comments are laid out alike if every
comment ends at the depth at which it starts. -/
theorem docComments_inserted {path : Text} {config : Config} {order : ImportOrder}
    (hon : create path { config with docComments := true } order = .ok on)
    (hoff : create path { config with docComments := false } order = .ok off) (calls : List Call) :
    let indent := on.layout.indent
    (on.run calls).1 = (off.run calls).1 ∧
    (on.run calls).2.table = (off.run calls).2.table ∧
    ∃ lines last,
      (FileLine.commentsOf lines).map FileLine.symbols = calls.flatMap Call.commentLines ∧
      (on.run calls).2.layout.finish.symbols =
        FileLine.document indent config.newline lines last ∧
      (off.run calls).2.layout.finish.symbols =
        FileLine.document indent config.newline (FileLine.codeOf lines) last ∧
      (on.LevelComments calls → FileLine.Level indent 0 lines) := by
  intro indent
  obtain ⟨hstart, hlayouts⟩ := ButForComments.of_create hon hoff
  obtain ⟨indent', hlayout⟩ := layout_of_create hon
  obtain ⟨hanswers, hend, lines, hboth, hcomments, hlevels⟩ := hstart.run calls
  have hindent : indent = indent' := congrArg Layout.indent hlayout
  -- both writers start with one and the same layout
  rw [← hlayouts, hlayout] at hboth
  rw [hlayout] at hlevels
  refine ⟨hanswers, hend.table, lines, (on.run calls).2.layout.line.symbols, hcomments, ?_, ?_, ?_⟩
  · rw [hindent]
    exact Layout.symbols_finish_of_laysOut hboth.on
  · rw [hindent, hend.line]
    exact Layout.symbols_finish_of_laysOut hboth.off
  · intro hlevel
    exact hlevels hlevel indent

/-- Comments that keep the depth, one of them in the middle of a line and one with braces that open
and close between its lines. -/
theorem docComments_inserted_level :
    let calls : List Call := [.print "int a;".toList [],
      .docComment "if (a) \x7b\n%s else".toList [.text "\x7d".toList],
      .println "class A \x7b".toList [], .docComment "Of \x7b@link B\x7d".toList [],
      .printClass "b.B".toList]
    ∃ on off, create "A.java".toList {} .lexical = .ok on ∧
      create "A.java".toList { docComments := false } .lexical = .ok off ∧
      on.LevelComments calls ∧
      let indent := on.layout.indent
      (on.run calls).1 = (off.run calls).1 ∧
      (on.run calls).2.table = (off.run calls).2.table ∧
      ∃ lines last,
        (FileLine.commentsOf lines).map FileLine.symbols = calls.flatMap Call.commentLines ∧
        (on.run calls).2.layout.finish.symbols = FileLine.document indent ['\n'] lines last ∧
        (off.run calls).2.layout.finish.symbols =
          FileLine.document indent ['\n'] (FileLine.codeOf lines) last ∧
        FileLine.Level indent 0 lines := by
  intro calls
  obtain ⟨on, off, hon, hoff, hlevel⟩ : ∃ on off, create "A.java".toList {} .lexical = .ok on ∧
      create "A.java".toList { docComments := false } .lexical = .ok off ∧
      on.LevelComments calls := by
    refine ⟨_, _, rfl, rfl, ?_⟩
    decide +kernel
  obtain ⟨hanswers, htable, lines, last, hcomments, hdocument, hdocument', hlevels⟩ :=
    @docComments_inserted on off "A.java".toList {} .lexical hon hoff calls
  exact ⟨on, off, hon, hoff, hlevel, hanswers, htable, lines, last, hcomments, hdocument,
    hdocument', hlevels hlevel⟩

/-- A comment that opens a brace indents what comes after it, and so the file with comments is not
the file without them with lines inserted. -/
theorem docComment_indents_code :
    let calls : List Call := [.docComment "\x7b".toList [], .println "x".toList []]
    ∃ on off, create "A.java".toList {} .lexical = .ok on ∧
      create "A.java".toList { docComments := false } .lexical = .ok off ∧
      let enabled := (on.run calls).2.layout.finish.text
      let disabled := (off.run calls).2.layout.finish.text
      enabled = "\n/**\n * \x7b\n     */\n    x\n".toList ∧ disabled = "\nx\n".toList ∧
      ¬ (Text.split '\n' disabled).Sublist (Text.split '\n' enabled) := by
  refine ⟨_, _, rfl, rfl, ?_, ?_, ?_⟩ <;> decide +kernel

end Writer

end JvmSource
