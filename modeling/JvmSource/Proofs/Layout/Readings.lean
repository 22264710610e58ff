import Mathlib.Data.List.Basic
import Mathlib.Tactic.Common
import JvmSource.Proofs.Layout.Braces

/-!
# What laying out keeps

Laying out lines adds and drops white space only. So whatever is read off a document symbol by
symbol can be read off the lines that were written, as long as nothing is read off white space, nor
off the characters of the indentation and of the line ends. In particular no mark gets lost or moves
past another one (`marks_finish`).
-/

namespace JvmSource

/-- Whether nothing is read off white space, and off what lines are indented with and end with. -/
structure Symbol.IgnoresSpace {β : Type} (read : Symbol → List β) (indent newline : Text) :
    Prop where
  blank : ∀ symbol : Symbol, symbol.isBlank = true → read symbol = []
  indent : ∀ c ∈ indent, read (.char c) = []
  newline : ∀ c ∈ newline, read (.char c) = []

section

variable {β : Type} {read : Symbol → List β} {indent newline : Text}

namespace Line

variable {line : Line}

/-- A line for which nothing is laid out is white space. -/
theorem isBlank_of_empty (hmarks : line.any Symbol.isMark = false)
    (htext : Text.trim line.text = []) : ∀ symbol ∈ line, symbol.isBlank = true := by
  intro symbol hsymbol
  cases symbol with
  | mark mark => exact absurd (List.any_eq_false.mp hmarks _ hsymbol) (by simp [Symbol.isMark])
  -- a character of the line is one of its text, all of which trimming has taken away
  | char c =>
    have hmem : c ∈ line.text := List.mem_flatMap.mpr ⟨.char c, hsymbol, List.mem_singleton_self c⟩
    obtain ⟨before, after, hbefore, hafter, hsplit⟩ := Text.exists_trim line.text
    rw [hsplit, htext, List.append_nil] at hmem
    rcases List.mem_append.mp hmem with h | h
    · exact hbefore c h
    · exact hafter c h

/-- Nothing is read off a blank line. -/
theorem flatMap_of_blank (h : Symbol.IgnoresSpace read indent newline)
    (hline : ∀ symbol ∈ line, symbol.isBlank = true) : line.flatMap read = [] :=
  List.flatMap_eq_nil_iff.mpr fun symbol hsymbol => h.blank symbol (hline symbol hsymbol)

theorem flatMap_symbols {text : Text} (h : ∀ c ∈ text, read (.char c) = []) :
    (Text.symbols text).flatMap read = [] := by
  rw [Text.symbols, List.flatMap_map]
  exact List.flatMap_eq_nil_iff.mpr h

theorem flatMap_indent (h : Symbol.IgnoresSpace read indent newline) (depth : Nat) :
    (Text.symbols (Text.times depth indent)).flatMap read = [] :=
  flatMap_symbols fun c hc => h.indent c (Layout.mem_of_mem_times hc)

/-- A line that is laid out says what it said before. -/
theorem flatMap_laid (h : Symbol.IgnoresSpace read indent newline) (before : Nat) (line : Line) :
    (line.laid indent before).flatMap read = line.flatMap read := by
  unfold laid
  split
  · next hempty => exact (flatMap_of_blank h (isBlank_of_empty hempty.1 hempty.2)).symm
  · have hend : (line.rtakeWhile Symbol.isBlank).flatMap read = [] :=
      flatMap_of_blank h fun symbol hsymbol => List.mem_rtakeWhile_imp hsymbol
    conv_rhs => rw [← List.rdropWhile_append_rtakeWhile (p := Symbol.isBlank) (l := line)]
    rw [List.flatMap_append, List.flatMap_append, flatMap_indent h, hend, List.nil_append,
      List.append_nil]

/-- Lines that are laid out say what they said before, one after the other. -/
theorem flatMap_laidAll (h : Symbol.IgnoresSpace read indent newline) (before : Nat)
    (lines : List Line) :
    (laidAll indent newline before lines).flatMap read = lines.flatten.flatMap read := by
  induction lines generalizing before with
  | nil => rfl
  | cons line lines ih =>
    rw [laidAll, List.flatMap_append, List.flatMap_append, flatMap_laid h,
      flatMap_symbols h.newline, ih, List.append_nil, List.flatten_cons, List.flatMap_append]

end Line

namespace Layout

/-- What is read off a document in the end, with the line that has not ended. -/
theorem flatMap_finish {layout : Layout}
    (h : Symbol.IgnoresSpace read layout.indent newline) :
    layout.finish.symbols.flatMap read =
      layout.document.symbols.flatMap read ++ layout.line.symbols.flatMap read := by
  unfold finish
  split
  · next hline =>
    rw [List.isEmpty_iff.mp hline]
    exact (List.append_nil _).symm
  · rw [Document.symbols_foldl_push, Document.symbols_pushText, List.flatMap_append,
      List.flatMap_append, Line.flatMap_indent h, List.append_nil]

/-- What is read off the document that calls lead to can be read off their lines. -/
theorem flatMap_finish_run (h : Symbol.IgnoresSpace read indent newline)
    (calls : List LayoutCall) :
    (run { indent, newline } calls).finish.symbols.flatMap read =
      (LayoutCall.allLines calls).flatten.flatMap read := by
  obtain ⟨ended, hended, hlays⟩ := advances_run (isNormal_new indent newline) calls
  have hlines : LayoutCall.allLines calls =
      ended ++ [(run { indent, newline } calls).line.symbols] :=
    (Text.nil_joinEnds (LayoutCall.allLines_ne_nil calls)).symm.trans hended
  have hindent : Symbol.IgnoresSpace read (run { indent, newline } calls).indent newline := by
    rw [hlays.indent]
    exact h
  have hdocument : (run { indent, newline } calls).document.symbols.flatMap read =
      ended.flatten.flatMap read := by
    rw [hlays.symbols]
    exact Line.flatMap_laidAll h 0 ended
  rw [flatMap_finish hindent, hdocument, hlines, List.flatten_append, List.flatten_singleton,
    List.flatMap_append]

end Layout

end

/-! ## Lines of calls -/

theorem Text.flatten_joinEnds {α : Type} (lines later : List (List α)) :
    (joinEnds lines later).flatten = lines.flatten ++ later.flatten := by
  induction lines with
  | nil => rfl
  | cons line lines ih =>
    by_cases hne : lines = []
    · subst hne
      cases later <;> simp [joinEnds]
    · rw [joinEnds_cons hne, List.flatten_cons, ih, List.flatten_cons, List.append_assoc]

theorem Line.flatten_ofText (text : Text) :
    (ofText text).flatten = Text.symbols (Layout.linesOf text).flatten := List.map_flatten.symm

theorem LayoutCall.flatten_allLines (calls : List LayoutCall) :
    (allLines calls).flatten = calls.flatMap fun call => call.lines.flatten := by
  induction calls with
  | nil => rfl
  | cons call calls ih => rw [allLines, Text.flatten_joinEnds, ih, List.flatMap_cons]

/-! ## Marks -/

/-- The mark that a symbol is. -/
def Symbol.marks : Symbol → List Mark
  | char _ => []
  | mark place => [place]

/-- The marks of a document, in order. -/
def Document.marks (document : Document) : List Mark := document.symbols.flatMap Symbol.marks

/-- The marks that a call places. -/
def LayoutCall.marks : LayoutCall → List Mark
  | mark place => [place]
  | _ => []

/-- The test for a mark finds the marks of a document. -/
theorem Document.has_eq_true_iff {document : Document} {mark : Mark} :
    document.has mark = true ↔ mark ∈ document.marks := by
  unfold Document.has Document.marks
  rw [List.contains_iff_mem]
  induction document with
  | nil => simp [Document.symbols]
  | cons segment rest ih =>
    cases segment with
    | text text =>
      have htext : (Text.symbols text).flatMap Symbol.marks = [] :=
        Line.flatMap_symbols fun _ _ => rfl
      rw [Document.symbols, List.flatMap_append, htext, List.nil_append, ← ih]
      simp
    | mark place =>
      rw [Document.symbols, List.flatMap_cons, List.mem_append, ← ih]
      simp [Symbol.marks]

/-- The lines of a call have the marks of the call. -/
theorem LayoutCall.marks_lines (call : LayoutCall) :
    call.lines.flatten.flatMap Symbol.marks = call.marks := by
  have htext : ∀ text : Text, (Line.ofText text).flatten.flatMap Symbol.marks = [] := by
    intro text
    rw [Line.flatten_ofText]
    exact Line.flatMap_symbols fun _ _ => rfl
  cases call with
  | print text => exact htext text
  | println text =>
    rw [lines, List.flatten_append, List.flatMap_append, htext]
    rfl
  | mark place => rfl
  | endLine => rfl

/-- The marks of a document are those that calls have placed, in order. -/
theorem Layout.marks_finish (indent newline : Text) (calls : List LayoutCall) :
    (run { indent, newline } calls).finish.marks = calls.flatMap LayoutCall.marks := by
  have hspace : Symbol.IgnoresSpace Symbol.marks indent newline := by
    refine ⟨fun symbol hblank => ?_, fun _ _ => rfl, fun _ _ => rfl⟩
    cases symbol with
    | char c => rfl
    | mark place => exact absurd hblank Bool.false_ne_true
  rw [Document.marks, flatMap_finish_run hspace, LayoutCall.flatten_allLines, List.flatMap_assoc]
  exact List.flatMap_congr fun call _ => call.marks_lines

end JvmSource
