import Mathlib.Tactic.Common
import JvmSource.Proofs.Layout.Braces

/-!
# Lines with and without comments

A file can be written with its comments or without them. Both files are laid out by the law of
braces: one for all lines, the other for those that belong to no comment. What is laid out for these
is the same as long as every comment leaves the depth as it was (`Level`).
-/

namespace JvmSource

/-- A line of a file, and whether it belongs to a comment. -/
structure FileLine where
  symbols : Line
  isComment : Bool
deriving DecidableEq, Repr

/-- What is laid out for a line that has not ended. -/
def Line.begun (indent : Text) (depth : Nat) (line : Line) : List Symbol :=
  if line = [] then [] else Text.symbols (Text.times depth indent) ++ line

namespace FileLine

def code (symbols : Line) : FileLine := ⟨symbols, false⟩

def comment (symbols : Line) : FileLine := ⟨symbols, true⟩

/-- The lines that belong to no comment. -/
def codeOf (lines : List FileLine) : List FileLine := lines.filter fun line => !line.isComment

/-- The lines that belong to comments. -/
def commentsOf (lines : List FileLine) : List FileLine := lines.filter isComment

/-- Lines as they are laid out after a depth. -/
def layAll (indent : Text) : (before : Nat) → List FileLine → List FileLine
  | _, [] => []
  | before, line :: lines =>
    { line with symbols := line.symbols.laid indent before } ::
      layAll indent (line.symbols.depthAfter before) lines

/-- The depth after some lines. -/
def depthAfter (before : Nat) (lines : List FileLine) : Nat :=
  Line.depthAfterAll before (lines.map symbols)

/-- A file that has lines with an end after each, and one that has not ended. -/
def document (indent newline : Text) (lines : List FileLine) (last : Line) : List Symbol :=
  ((layAll indent 0 lines).flatMap fun line => line.symbols ++ Text.symbols newline) ++
    last.begun indent (depthAfter 0 lines)

variable {indent newline : Text} {before : Nat} {first second lines : List FileLine}

/-- The lines of a file are laid out as lines, whether they belong to comments or not. -/
theorem laidAll_eq (indent newline : Text) (before : Nat) (lines : List FileLine) :
    Line.laidAll indent newline before (lines.map symbols) =
      (layAll indent before lines).flatMap fun line => line.symbols ++ Text.symbols newline := by
  induction lines generalizing before with
  | nil => rfl
  | cons line lines ih => rw [List.map_cons, Line.laidAll, ih, layAll, List.flatMap_cons]

/-- How lines that follow others are laid out depends on the depth after these only. -/
theorem layAll_append (indent : Text) (before : Nat) (first second : List FileLine) :
    layAll indent before (first ++ second) =
      layAll indent before first ++ layAll indent (depthAfter before first) second := by
  induction first generalizing before with
  | nil => rfl
  | cons line first ih =>
    rw [List.cons_append, layAll, ih, layAll, List.cons_append]
    rfl

/-- The depth after lines that follow others is reached from the depth after these. -/
theorem depthAfter_append (before : Nat) (first second : List FileLine) :
    depthAfter before (first ++ second) = depthAfter (depthAfter before first) second := by
  rw [depthAfter, List.map_append, Line.depthAfterAll_append]
  rfl

theorem codeOf_append (first second : List FileLine) :
    codeOf (first ++ second) = codeOf first ++ codeOf second := List.filter_append ..

theorem commentsOf_append (first second : List FileLine) :
    commentsOf (first ++ second) = commentsOf first ++ commentsOf second := List.filter_append ..

@[simp] theorem map_symbols_code (lines : List Line) : (lines.map code).map symbols = lines := by
  rw [List.map_map]
  exact List.map_id lines

@[simp] theorem map_symbols_comment (lines : List Line) :
    (lines.map comment).map symbols = lines := by
  rw [List.map_map]
  exact List.map_id lines

@[simp] theorem codeOf_code (lines : List Line) : codeOf (lines.map code) = lines.map code := by
  simp [codeOf, code]

@[simp] theorem codeOf_comment (lines : List Line) : codeOf (lines.map comment) = [] := by
  simp [codeOf, comment]

@[simp] theorem commentsOf_code (lines : List Line) : commentsOf (lines.map code) = [] := by
  simp [commentsOf, code]

@[simp] theorem commentsOf_comment (lines : List Line) :
    commentsOf (lines.map comment) = lines.map comment := by simp [commentsOf, comment]

/-- Laying out lines does not change which of them belong to comments. -/
theorem isComment_of_mem_layAll {value : Bool} (h : ∀ line ∈ lines, line.isComment = value) :
    ∀ line ∈ layAll indent before lines, line.isComment = value := by
  induction lines generalizing before with
  | nil => exact fun line hline => absurd hline List.not_mem_nil
  | cons first lines ih =>
    intro line hline
    rcases List.mem_cons.mp hline with rfl | hline
    · exact h first List.mem_cons_self
    · exact ih (fun line hmem => h line (List.mem_cons_of_mem _ hmem)) line hline

/-- Whether the comments among lines decide about nothing that is laid out for the others. -/
structure Level (indent : Text) (before : Nat) (lines : List FileLine) : Prop where
  laid : codeOf (layAll indent before lines) = layAll indent before (codeOf lines)
  depth : depthAfter before lines = depthAfter before (codeOf lines)

namespace Level

/-- Where the comments of some lines decide about nothing, and those of the lines behind neither,
the comments of all of them decide about nothing. -/
theorem append (h : Level indent before first) (h' : Level indent (depthAfter before first) second) :
    Level indent before (first ++ second) where
  laid := by
    rw [layAll_append, codeOf_append, codeOf_append, layAll_append, h.laid, h'.laid, h.depth]
  depth := by rw [depthAfter_append, h'.depth, codeOf_append, depthAfter_append, h.depth]

/-- Lines without comments are laid out as they are. -/
theorem code (indent : Text) (before : Nat) (lines : List Line) :
    Level indent before (lines.map FileLine.code) where
  laid := by
    have hcode : ∀ line ∈ lines.map FileLine.code, line.isComment = false := by simp [FileLine.code]
    rw [codeOf_code, codeOf, List.filter_eq_self]
    intro line hline
    rw [isComment_of_mem_layAll hcode line hline]
    rfl
  depth := by rw [codeOf_code]

/-- Comments that leave the depth as it was change nothing about the other lines. -/
theorem comment (indent : Text) {lines : List Line}
    (hdepth : Line.depthAfterAll before lines = before) :
    Level indent before (lines.map FileLine.comment) where
  laid := by
    have hcomment : ∀ line ∈ lines.map FileLine.comment, line.isComment = true := by
      simp [FileLine.comment]
    rw [codeOf_comment, codeOf, layAll, List.filter_eq_nil_iff]
    intro line hline
    rw [isComment_of_mem_layAll hcomment line hline]
    exact Bool.false_ne_true
  depth := by
    rw [codeOf_comment, depthAfter, map_symbols_comment, hdepth]
    rfl

end Level

end FileLine

namespace Layout

variable {on off on' off' : Layout} {lines : List FileLine}

/-- Whether lines lead from two layouts to two others, the first of which has all of them, the
second those that belong to no comment. The line that has been begun then is the same. -/
structure BothLayOut (on off on' off' : Layout) (lines : List FileLine) : Prop where
  on : on.LaysOut on' (lines.map FileLine.symbols)
  off : off.LaysOut off' ((FileLine.codeOf lines).map FileLine.symbols)
  line : on'.line.symbols = off'.line.symbols

/-- Doing nothing lays out no lines. -/
theorem laysOut_refl {layout : Layout} (h : layout.IsNormal) : layout.LaysOut layout [] :=
  ⟨(List.append_nil _).symm, rfl, rfl, rfl, h⟩

namespace BothLayOut

/-- Doing nothing lays out nothing in either file. -/
theorem refl (hon : on.IsNormal) (hoff : off.IsNormal) (hline : on.line.symbols = off.line.symbols) :
    BothLayOut on off on off [] := ⟨laysOut_refl hon, laysOut_refl hoff, hline⟩

/-- What is laid out in both files may be followed by more that is laid out in both. -/
theorem trans {on'' off'' : Layout} {more : List FileLine} (h : BothLayOut on off on' off' lines)
    (h' : BothLayOut on' off' on'' off'' more) : BothLayOut on off on'' off'' (lines ++ more) where
  on := by
    rw [List.map_append]
    exact h.on.trans h'.on
  off := by
    rw [FileLine.codeOf_append, List.map_append]
    exact h.off.trans h'.off
  line := h'.line

/-- The same calls write the same lines. -/
theorem run (hon : on.IsNormal) (hoff : off.IsNormal) (hline : on.line.symbols = off.line.symbols)
    (calls : List LayoutCall) :
    ∃ ended : List Line,
      BothLayOut on off (on.run calls) (off.run calls) (ended.map FileLine.code) := by
  obtain ⟨ended, hended, hlays⟩ := advances_run hon calls
  obtain ⟨ended', hended', hlays'⟩ := advances_run hoff calls
  rw [hline, hended'] at hended
  obtain ⟨rfl, hlast⟩ := List.append_inj' hended rfl
  refine ⟨ended', ?_, ?_, (List.singleton_inj.mp hlast).symm⟩
  · rw [FileLine.map_symbols_code]
    exact hlays
  · rw [FileLine.codeOf_code, FileLine.map_symbols_code]
    exact hlays'

/-- Lines that are written at the start of a line and are all ended go into one of the two files
only, if they belong to a comment. -/
theorem run_comment (hon : on.IsNormal) (hoff : off.IsNormal) (hline : on.line.symbols = [])
    (hline' : off.line.symbols = []) {calls : List LayoutCall} {ended : List Line}
    (hcalls : LayoutCall.allLines calls = ended ++ [[]]) :
    BothLayOut on off (on.run calls) off (ended.map FileLine.comment) := by
  obtain ⟨ended', hended', hlays⟩ := advances_run hon calls
  rw [hline, Text.nil_joinEnds (LayoutCall.allLines_ne_nil calls), hcalls] at hended'
  obtain ⟨rfl, hlast⟩ := List.append_inj' hended' rfl
  refine ⟨?_, ?_, ?_⟩
  · rw [FileLine.map_symbols_comment]
    exact hlays
  · rw [FileLine.codeOf_comment]
    exact laysOut_refl hoff
  · rw [hline', ← List.singleton_inj.mp hlast]

end BothLayOut

/-- A layout is completed by what is laid out for the line that has not ended. -/
theorem symbols_finish {layout : Layout} (h : layout.line.IsNormal) :
    layout.finish.symbols = layout.document.symbols ++
      Line.begun layout.indent layout.depth layout.line.symbols := by
  have hempty : layout.line = [] ↔ layout.line.symbols = [] := by
    constructor
    · intro hline
      rw [hline]
      rfl
    · intro hline
      rw [← Document.ofSymbols_symbols h, hline]
      rfl
  unfold finish Line.begun
  by_cases hline : layout.line = []
  · rw [if_pos (List.isEmpty_iff.mpr hline), if_pos (hempty.mp hline), List.append_nil]
  · rw [if_neg (fun h => hline (List.isEmpty_iff.mp h)), if_neg (fun h => hline (hempty.mpr h)),
      Document.symbols_foldl_push, Document.symbols_pushText, List.append_assoc]

/-- A new layout that lines have led on from is completed to a file with these lines. -/
theorem symbols_finish_of_laysOut {indent newline : Text} {layout : Layout}
    (h : LaysOut { indent, newline } layout (lines.map FileLine.symbols)) :
    layout.finish.symbols = FileLine.document indent newline lines layout.line.symbols := by
  have hdepth : layout.depth = FileLine.depthAfter 0 lines := h.depth
  have hindent : layout.indent = indent := h.indent
  have hsymbols : layout.document.symbols = (FileLine.layAll indent 0 lines).flatMap
      fun line => line.symbols ++ Text.symbols newline := by
    rw [h.symbols, ← FileLine.laidAll_eq]
    rfl
  rw [symbols_finish h.normal.line, hsymbols, hdepth, hindent]
  rfl

end Layout

end JvmSource
