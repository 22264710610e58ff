import Mathlib.Data.List.DropRight
import Mathlib.Tactic.Common
import JvmSource.Layout.Call
import JvmSource.Proofs.Layout.Growth
import JvmSource.Proofs.Layout.Lines
import JvmSource.Proofs.Text.Pieces

/-!
# The law of braces

Calls to a layout write lines, however the lines are cut into calls: a line has what is printed and
marked between two line ends. What becomes of a line depends on the line and on the depth before it
only, and the depth after it on its first and last characters. `Advances` says that of any calls,
with any line that has been begun before, so that one sequence of calls can follow another.
-/

namespace JvmSource

namespace Symbol

/-- Whether a symbol is white space; a mark is not. -/
def isBlank : Symbol → Bool
  | char c => Unicode.isBlank c
  | mark _ => false

def isMark : Symbol → Bool
  | char _ => false
  | mark _ => true

end Symbol

/-! ## Lines -/

/-- What is written between two line ends: characters and marks. -/
abbrev Line := List Symbol

namespace Line

/-- The text of a line without its marks. -/
def text (line : Line) : Text := line.flatMap (Symbol.render fun _ => [])

/-- The depth of a line after a depth: one less if its text starts with a closing brace. -/
def depth (before : Nat) (line : Line) : Nat :=
  if ['}'] <+: Text.trim line.text then before - 1 else before

/-- The depth after a line: one more than its own if its text ends with an opening brace. -/
def depthAfter (before : Nat) (line : Line) : Nat :=
  if ['{'] <:+ Text.trim line.text then line.depth before + 1 else line.depth before

/-- What is laid out for a line: nothing if it has neither text nor mark, and otherwise the line at
its depth, without the white space after its last character or mark. -/
def laid (indent : Text) (before : Nat) (line : Line) : List Symbol :=
  if line.any Symbol.isMark = false ∧ Text.trim line.text = [] then []
  else Text.symbols (Text.times (line.depth before) indent) ++ line.rdropWhile Symbol.isBlank

/-- What is laid out for lines, with an end after each. -/
def laidAll (indent newline : Text) : (before : Nat) → List Line → List Symbol
  | _, [] => []
  | before, line :: lines =>
    line.laid indent before ++ Text.symbols newline ++
      laidAll indent newline (line.depthAfter before) lines

/-- The depth after some lines. -/
def depthAfterAll : (before : Nat) → List Line → Nat
  | before, [] => before
  | before, line :: lines => depthAfterAll (line.depthAfter before) lines

/-- The lines of a text, the last of them without an end. As everywhere in a layout, a carriage
return at the end of one of them belongs to the line end, and is no part of it. -/
def ofText (text : Text) : List Line := (Layout.linesOf text).map Text.symbols

end Line

namespace LayoutCall

/-- What a call adds to the line that has been begun, and the lines that follow; each of them but
the last is ended by the call. -/
def lines : LayoutCall → List Line
  | print text => Line.ofText text
  | println text => Line.ofText text ++ [[]]
  | mark place => [[.mark place]]
  | endLine => [[], []]

/-- Each call writes to the line that has been begun, if nothing else. -/
theorem lines_ne_nil (call : LayoutCall) : call.lines ≠ [] := by
  cases call <;> simp [lines, Line.ofText, Layout.linesOf, Text.split_ne_nil]

/-- The lines that calls write, each of them but the last ended by a call. -/
def allLines : List LayoutCall → List Line
  | [] => [[]]
  | call :: calls => Text.joinEnds call.lines (allLines calls)

theorem allLines_ne_nil (calls : List LayoutCall) : allLines calls ≠ [] := by
  cases calls with
  | nil => simp [allLines]
  | cons call calls => exact Text.joinEnds_ne_nil (lines_ne_nil call) _

end LayoutCall

/-! ## The end of a line -/

namespace Line

/-- What is laid out for lines that follow others depends on the depth after these only. -/
theorem laidAll_append (indent newline : Text) (before : Nat) (first second : List Line) :
    laidAll indent newline before (first ++ second) =
      laidAll indent newline before first ++
        laidAll indent newline (depthAfterAll before first) second := by
  induction first generalizing before with
  | nil => rfl
  | cons line first ih =>
    rw [List.cons_append, laidAll, ih, laidAll, depthAfterAll]
    simp only [List.append_assoc]

/-- The depth after lines that follow others is reached from the depth after these. -/
theorem depthAfterAll_append (before : Nat) (first second : List Line) :
    depthAfterAll before (first ++ second) = depthAfterAll (depthAfterAll before first) second := by
  induction first generalizing before with
  | nil => rfl
  | cons line first ih => rw [List.cons_append, depthAfterAll, ih, depthAfterAll]

/-- White space at the end is dropped from the text behind the last mark. -/
theorem rdropWhile_append_symbols {front : List Symbol}
    (hfront : ∀ symbol, front.getLast? = some symbol → symbol.isBlank = false) (text : Text) :
    (front ++ Text.symbols text).rdropWhile Symbol.isBlank =
      front ++ Text.symbols (Text.trimEnd text) := by
  induction text using List.reverseRecOn with
  | nil =>
    show (front ++ []).rdropWhile Symbol.isBlank = front ++ []
    rw [List.append_nil, List.rdropWhile_eq_self_iff]
    intro hne
    -- nothing is left of the text, and what is in front of it ends without white space
    rw [hfront _ (List.getLast?_eq_some_getLast hne)]
    simp
  | append_singleton text c ih =>
    have hsplit : front ++ Text.symbols (text ++ [c]) = front ++ Text.symbols text ++ [.char c] := by
      rw [Text.symbols_append, ← List.append_assoc]
      rfl
    rw [hsplit]
    cases hblank : Unicode.isBlank c with
    | true =>
      have hsame : Text.trimEnd (text ++ [c]) = Text.trimEnd text := by
        simp only [Text.trimEnd_eq_rdropWhile]
        exact List.rdropWhile_concat_pos _ _ _ hblank
      rw [hsame, ← ih]
      exact List.rdropWhile_concat_pos _ _ _ hblank
    | false =>
      rw [Text.trimEnd_of_last hblank, hsplit]
      exact List.rdropWhile_concat_neg _ _ _ (by simpa [Symbol.isBlank] using hblank)

end Line

namespace Layout

/-- Only the last piece of a line is trimmed. -/
theorem trimLine_concat (front : Document) (segment : Segment) :
    trimLine (front ++ [segment]) = front ++ trimLine [segment] := by
  induction front with
  | nil => rfl
  | cons first front ih =>
    cases front with
    | nil => cases first <;> rfl
    | cons next front =>
      show trimLine (first :: (next :: front ++ [segment])) = first :: (next :: front ++ _)
      rw [← ih]
      cases first <;> rfl

/-- The white space at the end of a line is all in its last piece. -/
theorem symbols_trimLine {line : Document} (h : line.IsNormal) :
    Document.symbols (trimLine line) = line.symbols.rdropWhile Symbol.isBlank := by
  rcases List.eq_nil_or_concat line with rfl | ⟨front, segment, rfl⟩
  · rfl
  rw [List.concat_eq_append] at h ⊢
  rw [trimLine_concat, Document.symbols_append, Document.symbols_append]
  cases segment with
  | mark mark =>
    exact (List.rdropWhile_concat_neg _ (Document.symbols front) (Symbol.mark mark)
      Bool.false_ne_true).symm
  | text text =>
    have hsame : ∀ text : Text, Document.symbols [.text text] = Text.symbols text :=
      fun text => List.append_nil _
    show Document.symbols front ++ Document.symbols [.text (Text.trimEnd text)] = _
    rw [hsame, hsame, Line.rdropWhile_append_symbols]
    intro symbol hsymbol
    -- what stands before text at the end is a mark, if anything
    rcases List.eq_nil_or_concat front with rfl | ⟨before, last, rfl⟩
    · exact absurd hsymbol (by simp [Document.symbols])
    · rw [List.concat_eq_append] at h hsymbol
      cases last with
      | text last => exact absurd (by simp) (h.not_text_of_concat last)
      | mark mark =>
        rw [Document.symbols_append] at hsymbol
        have hlast : .mark mark = symbol := by simpa [Document.symbols] using hsymbol
        rw [← hlast]
        rfl

/-- A line has a mark among its symbols if one of its pieces is a mark. -/
theorem any_isMark_symbols (line : Document) :
    line.symbols.any Symbol.isMark = line.any fun
      | .mark _ => true
      | .text _ => false := by
  induction line with
  | nil => rfl
  | cons segment rest ih =>
    cases segment with
    | text text =>
      have htext : (Text.symbols text).any Symbol.isMark = false := by
        simp [Text.symbols, Symbol.isMark]
      rw [Document.symbols, List.any_append, htext, ih]
      rfl
    | mark mark => rfl

theorem text_symbols (line : Document) : Line.text line.symbols = line.text :=
  (Document.text_eq_symbols line).symm

/-- A line is blank if it has no mark and its text is white space. -/
theorem isBlankLine_iff (line : Document) :
    isBlankLine line = true ↔
      line.symbols.any Symbol.isMark = false ∧ Text.trim (Line.text line.symbols) = [] := by
  rw [any_isMark_symbols, text_symbols, isBlankLine, Bool.and_eq_true, List.isEmpty_iff,
    Bool.not_eq_true']
  exact and_comm

/-- The depth of a line is that of the law of braces. -/
theorem lineDepth_eq (before : Nat) (line : Document) :
    lineDepth before line.text = Line.depth before line.symbols := by
  have hiff : (Text.trim line.text).head? = some '}' ↔ ['}'] <+: Text.trim line.text := by
    rw [List.head?_eq_some_iff]
    exact exists_congr fun rest => eq_comm
  rw [lineDepth, Line.depth, text_symbols]
  exact if_congr hiff rfl rfl

/-- The depth after a line is that of the law of braces. -/
theorem nextDepth_eq (before : Nat) (line : Document) :
    nextDepth (lineDepth before line.text) line.text = Line.depthAfter before line.symbols := by
  have hiff : (Text.trim line.text).getLast? = some '{' ↔ ['{'] <:+ Text.trim line.text := by
    rw [List.getLast?_eq_some_iff]
    exact exists_congr fun front => eq_comm
  rw [nextDepth, Line.depthAfter, text_symbols, ← lineDepth_eq]
  exact if_congr hiff rfl rfl

/-- Ending a line lays out the line and an end. -/
theorem symbols_endLine {layout : Layout} (h : layout.line.IsNormal) :
    layout.endLine.document.symbols =
      layout.document.symbols ++ Line.laid layout.indent layout.depth layout.line.symbols ++
        Text.symbols layout.newline := by
  have hblank := isBlankLine_iff layout.line
  unfold endLine Line.laid
  simp only
  rw [Document.symbols_pushText]
  by_cases hline : isBlankLine layout.line = true
  · rw [if_pos hline, if_pos (hblank.mp hline), List.append_nil]
  · rw [if_neg hline, if_neg (fun h => hline (hblank.mpr h)), Document.symbols_foldl_push,
      Document.symbols_pushText, symbols_trimLine h, lineDepth_eq]
    simp only [List.append_assoc]

/-! ## What calls do -/

/-- Whether the pieces of a layout are in normal form. -/
structure IsNormal (layout : Layout) : Prop where
  line : layout.line.IsNormal
  document : layout.document.IsNormal

/-- Whether lines that have been ended lead from one layout to another. -/
structure LaysOut (before after : Layout) (ended : List Line) : Prop where
  symbols : after.document.symbols = before.document.symbols ++
    Line.laidAll before.indent before.newline before.depth ended
  depth : after.depth = Line.depthAfterAll before.depth ended
  indent : after.indent = before.indent
  newline : after.newline = before.newline
  normal : after.IsNormal

/-- Whether written lines lead from one layout to another. The first line continues the one that had
been begun, and the last line is the one that has been begun afterwards. -/
def Advances (before after : Layout) (lines : List Line) : Prop :=
  ∃ ended, Text.joinEnds [before.line.symbols] lines = ended ++ [after.line.symbols] ∧
    before.LaysOut after ended

variable {layout : Layout}

/-- Lines that are laid out after others are laid out with them. -/
theorem LaysOut.trans {a b c : Layout} {first second : List Line} (h : a.LaysOut b first)
    (h' : b.LaysOut c second) : a.LaysOut c (first ++ second) where
  symbols := by
    rw [h'.symbols, h.symbols, h.indent, h.newline, h.depth, Line.laidAll_append, List.append_assoc]
  depth := by rw [h'.depth, h.depth, Line.depthAfterAll_append]
  indent := h'.indent.trans h.indent
  newline := h'.newline.trans h.newline
  normal := h'.normal

/-- What is written first comes before what is written next, and the lines that meet are one. -/
theorem Advances.trans {a b c : Layout} {first second : List Line} (h : a.Advances b first)
    (h' : b.Advances c second) (hfirst : first ≠ []) (hsecond : second ≠ []) :
    a.Advances c (Text.joinEnds first second) := by
  obtain ⟨ended, hended, hlays⟩ := h
  obtain ⟨ended', hended', hlays'⟩ := h'
  refine ⟨ended ++ ended', ?_, hlays.trans hlays'⟩
  obtain ⟨next, rest, rfl⟩ := List.exists_cons_of_ne_nil hsecond
  calc Text.joinEnds [a.line.symbols] (Text.joinEnds first (next :: rest))
      = Text.joinEnds (ended ++ [b.line.symbols]) (next :: rest) := by
        rw [← Text.joinEnds_assoc (List.cons_ne_nil _ _) hfirst, hended]
    _ = ended ++ Text.joinEnds [b.line.symbols] (next :: rest) :=
        Text.joinEnds_concat ended _ next rest
    _ = ended ++ ended' ++ [c.line.symbols] := by rw [hended', List.append_assoc]

/-- Doing nothing adds nothing to the line that has been begun. -/
theorem advances_refl (h : layout.IsNormal) : layout.Advances layout [[]] := by
  refine ⟨[], by simp [Text.joinEnds], ⟨?_, rfl, rfl, rfl, h⟩⟩
  exact (List.append_nil _).symm

/-- A layout whose line has gone on has ended no line. -/
theorem advances_of_line (h : layout.IsNormal) {line : Document} (hline : line.IsNormal)
    {more : Line} (hmore : line.symbols = layout.line.symbols ++ more) :
    layout.Advances { layout with line } [more] := by
  refine ⟨[], ?_, ⟨?_, rfl, rfl, rfl, ⟨hline, h.document⟩⟩⟩
  · show [layout.line.symbols ++ more] = [line.symbols]
    rw [hmore]
  · exact (List.append_nil _).symm

/-- Text that is added goes to the line that has been begun, without a carriage return at its
end. -/
theorem advances_add (h : layout.IsNormal) (text : Text) :
    layout.Advances (layout.add text) [Text.symbols (dropReturn text)] :=
  advances_of_line h (h.line.pushText _) (Document.symbols_pushText layout.line (dropReturn text))

/-- A mark goes to the line that has been begun. -/
theorem advances_mark (h : layout.IsNormal) (mark : Mark) :
    layout.Advances (layout.mark mark) [[.mark mark]] :=
  advances_of_line h (h.line.push (.mark mark)) (Document.symbols_push layout.line (.mark mark))

/-- A line end leaves the line as it is, and begins another one. -/
theorem advances_endLine (h : layout.IsNormal) : layout.Advances layout.endLine [[], []] := by
  refine ⟨[layout.line.symbols], ?_, ⟨?_, ?_, rfl, rfl, ⟨Document.isNormal_nil, ?_⟩⟩⟩
  · show [layout.line.symbols ++ [], []] = [layout.line.symbols] ++ [[]]
    rw [List.append_nil]
    rfl
  · rw [symbols_endLine h.line]
    simp only [Line.laidAll, List.append_nil, List.append_assoc]
  · exact nextDepth_eq layout.depth layout.line
  · unfold endLine
    simp only
    apply Document.IsNormal.pushText
    split
    · exact h.document
    · exact (h.document.pushText _).foldl_push _

/-- A layout in normal form stays so. -/
theorem Advances.normal {after : Layout} {lines : List Line} (h : layout.Advances after lines) :
    after.IsNormal := by
  obtain ⟨ended, -, hlays⟩ := h
  exact hlays.normal

/-- Printing lines adds the first one to the line that has been begun, and begins the last one. -/
theorem advances_printLines (h : layout.IsNormal) {lines : List Text} (hlines : lines ≠ []) :
    layout.Advances (layout.printLines lines)
      (lines.map fun line => Text.symbols (dropReturn line)) := by
  induction lines generalizing layout with
  | nil => exact absurd rfl hlines
  | cons line lines ih =>
    have hadd := advances_add h line
    cases lines with
    | nil => exact hadd
    | cons next lines =>
      -- the first line is ended, and the induction goes on from the empty line after it
      have hend := advances_endLine hadd.normal
      have hfirst := hadd.trans hend (by simp) (by simp)
      have hrest := ih hend.normal (List.cons_ne_nil next lines)
      have hall := hfirst.trans hrest (by simp [Text.joinEnds]) (by simp)
      have hprint : layout.printLines (line :: next :: lines) =
          (layout.add line).endLine.printLines (next :: lines) := by
        rw [printLines]
        simp
      rw [hprint]
      simpa [Text.joinEnds] using hall

/-- Printing a text adds its lines. -/
theorem advances_print (h : layout.IsNormal) (text : Text) :
    layout.Advances (layout.print text) (Line.ofText text) := by
  have hprint := advances_printLines h (Text.split_ne_nil '\n' text)
  rw [Line.ofText, linesOf, List.map_map]
  exact hprint

/-- Every call adds the lines that it writes. -/
theorem advances_perform (h : layout.IsNormal) (call : LayoutCall) :
    layout.Advances (layout.perform call) call.lines := by
  cases call with
  | print text => exact advances_print h text
  | println text =>
    have hprint := advances_print h text
    have hne : Line.ofText text ≠ [] := by simp [Line.ofText, linesOf, Text.split_ne_nil]
    have hall := hprint.trans (advances_endLine hprint.normal) hne (by simp)
    rwa [Text.joinEnds_ended hne] at hall
  | mark mark => exact advances_mark h mark
  | endLine => exact advances_endLine h

/-- Calls write their lines, one call after the other. -/
theorem advances_run (h : layout.IsNormal) (calls : List LayoutCall) :
    layout.Advances (layout.run calls) (LayoutCall.allLines calls) := by
  induction calls generalizing layout with
  | nil => exact advances_refl h
  | cons call calls ih =>
    have hfirst := advances_perform h call
    exact hfirst.trans (ih hfirst.normal) (LayoutCall.lines_ne_nil call)
      (LayoutCall.allLines_ne_nil calls)

theorem isNormal_new (indent newline : Text) : IsNormal { indent, newline } :=
  ⟨Document.isNormal_nil, Document.isNormal_nil⟩

/-! ## Calls that end all their lines -/

/-- Where calls leave no line without an end, the document has what is laid out for their lines,
each at the depth that the lines before it lead to, and the depth is the one that all of them lead
to. -/
theorem finish_follows_braces (indent newline : Text) (calls : List LayoutCall)
    (hended : (run { indent, newline } calls).line = []) :
    ∃ lines, LayoutCall.allLines calls = lines ++ [[]] ∧
      (run { indent, newline } calls).depth = Line.depthAfterAll 0 lines ∧
      (run { indent, newline } calls).finish =
        Document.ofSymbols (Line.laidAll indent newline 0 lines) := by
  obtain ⟨lines, hlines, hlays⟩ := advances_run (isNormal_new indent newline) calls
  rw [hended] at hlines
  refine ⟨lines, ?_, hlays.depth, ?_⟩
  · calc LayoutCall.allLines calls
        = Text.joinEnds [[]] (LayoutCall.allLines calls) :=
          (Text.nil_joinEnds (LayoutCall.allLines_ne_nil calls)).symm
      _ = lines ++ [[]] := hlines
  · have hfinish : (run { indent, newline } calls).finish =
        (run { indent, newline } calls).document := by simp [finish, hended]
    have hsymbols := hlays.symbols
    rw [hfinish, ← Document.ofSymbols_symbols hlays.normal.document, hsymbols]
    rfl

/-- A brace that closes and opens, a line with a mark that is printed in pieces, white space at the
end of a line, an empty line, and more braces closed than were opened. -/
theorem finish_follows_braces_else :
    let calls : List LayoutCall := [.print "if (a) \x7b\nb(".toList, .mark .serial,
      .println ");  ".toList, .println " \x7d else \x7b\r\n\nc".toList, .println "\x7d\n\x7d".toList]
    let layout := run { indent := "  ".toList, newline := ['\n'] } calls
    layout.line = [] ∧
    (∃ lines, LayoutCall.allLines calls = lines ++ [[]] ∧
      layout.depth = Line.depthAfterAll 0 lines ∧
      layout.finish = Document.ofSymbols (Line.laidAll "  ".toList ['\n'] 0 lines)) ∧
    layout.depth = 0 ∧
    layout.finish = [.text "if (a) \x7b\n  b(".toList, .mark .serial,
      .text ");\n \x7d else \x7b\n\n  c\n\x7d\n\x7d\n".toList] := by
  intro calls layout
  have hended : layout.line = [] := by decide +kernel
  refine ⟨hended, finish_follows_braces "  ".toList ['\n'] calls hended, ?_, ?_⟩
  · decide +kernel
  · decide +kernel

end Layout

end JvmSource
