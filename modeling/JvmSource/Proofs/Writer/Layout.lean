import Mathlib.Tactic.Common
import JvmSource.Layout.Call
import JvmSource.Proofs.Layout.Growth
import JvmSource.Proofs.Writer.Imports
import JvmSource.Proofs.Writer.Table

/-!
# What a writer lays out

All that a writer does to its layout is to print text, place marks and end lines. `layoutCalls`
names these steps for each call, so that what is known of a layout holds of the file that a writer
makes of its calls. The steps of a call depend on the dialect, on whether comments are wanted and,
if the call writes a reference, on how that is shortened; on nothing else.
-/

namespace JvmSource

namespace Layout

variable {layout : Layout}

theorem run_append (layout : Layout) (first second : List LayoutCall) :
    layout.run (first ++ second) = (layout.run first).run second := List.foldl_append

theorem run_cons (layout : Layout) (call : LayoutCall) (calls : List LayoutCall) :
    layout.run (call :: calls) = (layout.perform call).run calls := rfl

/-- A layout only adds to its text. -/
theorem prefix_run (layout : Layout) (calls : List LayoutCall) :
    layout.document.text <+: (layout.run calls).document.text := by
  induction calls generalizing layout with
  | nil => exact List.prefix_refl _
  | cons call calls ih =>
    have hfirst : layout.document.text <+: (layout.perform call).document.text := by
      cases call with
      | print text => exact layout.prefix_print text
      | println text => exact layout.prefix_println text
      | mark place => exact List.prefix_refl _
      | endLine => exact layout.prefix_endLine
    exact hfirst.trans (ih (layout.perform call))

end Layout

/-- The steps that write a documentation comment once its line has been started. -/
def Call.commentSteps (text : Text) (args : List Arg) : List LayoutCall :=
  [.println "/**".toList,
    .println (Template.format (" * ".toList ++ DocComment.escape text) (DocComment.escapeArgs args)),
    .println " */".toList]

namespace Writer

variable {writer other : Writer}

/-- The steps by which a call lays out what it writes. -/
def layoutCalls (writer : Writer) : Call → List LayoutCall
  | .print template args => [.print (Template.format template args)]
  | .println template args => [.println (Template.format template args)]
  | .newline => [.endLine]
  | .reference _ _ => []
  | .references _ _ => []
  | .printClass type => [.print (writer.reference type 1).1]
  | .docComment text args =>
    .endLine :: if writer.docComments then Call.commentSteps text args else []
  | .header text args =>
    [.endLine, .println rule, .println (Template.format ("// ".toList ++ text) args), .println rule]
  | .override wanted => if wanted then [.println "@Override".toList] else []
  | .overrideInherited wanted => .endLine :: if wanted then [.println "@Override".toList] else []
  | .serial =>
    if writer.dialect.policy.serialVersion then
      [.endLine, .print "private static final long serialVersionUID = ".toList, .mark .serial,
        .println [';']]
    else []
  | .package name => [.println (writer.dialect.policy.packageStatement name)]
  | .imports => [.mark .imports, .endLine]

/-- The steps of a call in two writers of one dialect are the same if the reference that the call
writes is shortened alike and if both want comments or neither does. -/
theorem layoutCalls_congr (hdialect : writer.dialect = other.dialect) {call : Call}
    (hshort : ∀ type, call = .printClass type →
      (writer.reference type 1).1 = (other.reference type 1).1)
    (hcomments : ∀ text args, call = .docComment text args →
      writer.docComments = other.docComments) :
    writer.layoutCalls call = other.layoutCalls call := by
  cases call with
  | printClass type => rw [layoutCalls, hshort type rfl, layoutCalls]
  | docComment text args => rw [layoutCalls, hcomments text args rfl, layoutCalls]
  | serial | package => rw [layoutCalls, hdialect, layoutCalls]
  | _ => rfl

/-- The steps of a run, call by call. -/
def allLayoutCalls : Writer → List Call → List LayoutCall
  | _, [] => []
  | writer, call :: calls => writer.layoutCalls call ++ (writer.perform call).2.allLayoutCalls calls

/-- A call changes the layout as its layout calls do. -/
theorem layout_perform (writer : Writer) (call : Call) :
    (writer.perform call).2.layout = writer.layout.run (writer.layoutCalls call) := by
  cases call with
  | docComment text args =>
    have hnewline : writer.newline.docComments = writer.docComments := rfl
    unfold perform docComment layoutCalls
    simp only [hnewline]
    split <;> rfl
  | override wanted => cases wanted <;> rfl
  | overrideInherited wanted => cases wanted <;> rfl
  | serial =>
    unfold perform serial layoutCalls
    simp only
    split <;> rfl
  | _ => rfl

/-- Calls change the layout as all their layout calls do, in order. -/
theorem layout_run (writer : Writer) (calls : List Call) :
    (writer.run calls).2.layout = writer.layout.run (writer.allLayoutCalls calls) := by
  induction calls generalizing writer with
  | nil => rfl
  | cons call calls ih =>
    show ((writer.perform call).2.run calls).2.layout = _
    rw [ih, layout_perform, allLayoutCalls, Layout.run_append]

theorem run_cons (writer : Writer) (call : Call) (calls : List Call) :
    (writer.run (call :: calls)).2 = ((writer.perform call).2.run calls).2 := rfl

theorem answers_run_cons (writer : Writer) (call : Call) (calls : List Call) :
    (writer.run (call :: calls)).1 =
      (writer.perform call).1 :: ((writer.perform call).2.run calls).1 := rfl

/-- The second part of a run starts in the state that the first part leaves. -/
theorem run_append (writer : Writer) (first second : List Call) :
    (writer.run (first ++ second)).2 = ((writer.run first).2.run second).2 := by
  induction first generalizing writer with
  | nil => rfl
  | cons call first ih => exact ih (writer.perform call).2

/-! ## What no call changes -/

/-- No call changes the dialect. -/
theorem dialect_perform (writer : Writer) (call : Call) :
    (writer.perform call).2.dialect = writer.dialect := by
  obtain ⟨package, layout, heq⟩ := writer.perform_eq call
  rw [heq]

/-- No run changes the dialect. -/
theorem dialect_run (writer : Writer) (calls : List Call) :
    (writer.run calls).2.dialect = writer.dialect := by
  induction calls generalizing writer with
  | nil => rfl
  | cons call calls ih => exact (ih (writer.perform call).2).trans (writer.dialect_perform call)

/-- No call turns doc comments on or off. -/
theorem docComments_perform (writer : Writer) (call : Call) :
    (writer.perform call).2.docComments = writer.docComments := by
  obtain ⟨package, layout, heq⟩ := writer.perform_eq call
  rw [heq]

/-- The order of imports and the wish for comments decide about nothing else in a new writer. -/
theorem create_eq_map (path : Text) (config : Config) (order order' : ImportOrder) (wanted : Bool) :
    create path { config with docComments := wanted } order' =
      (create path config order).map fun writer =>
        { writer with docComments := wanted, order := order' } := by
  have hcharset : ({ config with docComments := wanted } : Config).resolveCharset =
      config.resolveCharset := rfl
  unfold create
  simp only [hcharset]
  rcases Dialect.forPath path with fault | ⟨dialect, className⟩
  · rfl
  · simp only [Except.mapError, bind, Except.bind]
    rcases Resolver.create dialect.policy config.excluded with fault | resolver
    · rfl
    · rcases config.resolveCharset with fault | charset <;> rfl

/-- A new writer writes doc comments when its configuration says so. -/
theorem docComments_of_create {path : Text} {config : Config} {order : ImportOrder}
    (hcreate : create path config order = .ok writer) : writer.docComments = config.docComments := by
  have hmap := create_eq_map path config order order config.docComments
  have hsame : ({ config with docComments := config.docComments } : Config) = config := rfl
  rw [hsame, hcreate] at hmap
  exact congrArg docComments (Except.ok.inj hmap)

/-- A new writer starts with an empty layout, with the newline of its configuration. -/
theorem layout_of_create {path : Text} {config : Config} {order : ImportOrder}
    (hcreate : create path config order = .ok writer) :
    ∃ indent, writer.layout = { indent, newline := config.newline } := by
  cases hpath : Dialect.forPath path with
  | error fault =>
    simp only [create, hpath, Except.mapError, bind, Except.bind] at hcreate
    exact absurd hcreate (by simp)
  | ok found =>
    obtain ⟨dialect, className⟩ := found
    obtain ⟨-, -, -, -, hlayout⟩ := of_create hpath hcreate
    exact hlayout

end Writer

end JvmSource
