import Mathlib.Tactic.Common
import JvmSource.Proofs.Layout.Readings

/-!
# What is printed is there

Cutting a text into lines takes away line ends and carriage returns, and laying out a line changes
the white space at its ends. So but for white space a document has all that was printed and marked,
once and in order, whether or not its last line was ended.
-/

namespace JvmSource

/-- What a call prints, with its mark filled in. -/
def LayoutCall.printed (fill : Mark → Text) : LayoutCall → Text
  | .print text => text
  | .println text => text
  | .mark place => fill place
  | .endLine => []

/-! ## Lines of a text -/

namespace Text

/-- A separator that is white space makes no difference. -/
theorem dense_intercalate_of_blank {separator : Text}
    (h : ∀ c ∈ separator, Unicode.isBlank c = true) (texts : List Text) :
    dense (separator.intercalate texts) = dense texts.flatten := by
  induction texts with
  | nil => rfl
  | cons text texts ih =>
    by_cases hne : texts = []
    · simp [hne]
    · rw [List.intercalate_cons_of_ne_nil hne, List.flatten_cons, dense_append, dense_append,
        dense_append, dense_of_blank h, ih, List.append_nil]

theorem dense_dropReturn (text : Text) : dense (Layout.dropReturn text) = dense text := by
  obtain ⟨after, hafter, htext⟩ := Layout.exists_dropReturn text
  conv_rhs => rw [htext, dense_append, dense_of_blank hafter, List.append_nil]

/-- The lines of a text are the text but for white space. -/
theorem dense_linesOf (text : Text) : dense (Layout.linesOf text).flatten = dense text := by
  have hdrop : ∀ lines : List Text,
      dense (lines.map Layout.dropReturn).flatten = dense lines.flatten := by
    intro lines
    induction lines with
    | nil => rfl
    | cons line lines ih =>
      simp only [List.map_cons, List.flatten_cons, dense_append, dense_dropReturn, ih]
  have hnewline : ∀ c ∈ ['\n'], Unicode.isBlank c = true := List.all_eq_true.mp (by decide)
  rw [Layout.linesOf, hdrop, ← dense_intercalate_of_blank hnewline, split_eq_splitOn,
    List.intercalate_splitOn]

end Text

/-! ## Lines of a document -/

namespace Line

variable {fill : Mark → Text}

/-- What is said by symbols with their marks filled in, without white space. -/
def dense (fill : Mark → Text) (line : Line) : Text :=
  Text.dense (line.flatMap (Symbol.render fill))

theorem dense_append (fill : Mark → Text) (first second : Line) :
    dense fill (first ++ second) = dense fill first ++ dense fill second := by
  rw [dense, List.flatMap_append, Text.dense_append]
  rfl

theorem dense_symbols (fill : Mark → Text) (text : Text) :
    dense fill (Text.symbols text) = Text.dense text := by
  rw [dense, Text.render_symbols]

theorem dense_eq_flatMap (fill : Mark → Text) (line : Line) :
    dense fill line = line.flatMap fun symbol => Text.dense (symbol.render fill) :=
  List.filter_flatMap

/-- White space says nothing, whatever marks are filled with. -/
theorem ignoresSpace_dense {indent newline : Text}
    (hindent : ∀ c ∈ indent, Unicode.isBlank c = true)
    (hnewline : ∀ c ∈ newline, Unicode.isBlank c = true) (fill : Mark → Text) :
    Symbol.IgnoresSpace (fun symbol => Text.dense (symbol.render fill)) indent newline := by
  have hchar : ∀ c, Unicode.isBlank c = true → Text.dense [c] = [] := by
    intro c hc
    exact Text.dense_of_blank (by simpa using hc)
  refine ⟨?_, fun c hc => hchar c (hindent c hc), fun c hc => hchar c (hnewline c hc)⟩
  intro symbol hblank
  cases symbol with
  | char c => exact hchar c hblank
  | mark place => exact absurd hblank Bool.false_ne_true

/-- Laying out lines changes white space only. -/
theorem dense_laidAll {indent newline : Text} (hindent : ∀ c ∈ indent, Unicode.isBlank c = true)
    (hnewline : ∀ c ∈ newline, Unicode.isBlank c = true) (before : Nat) (lines : List Line) :
    dense fill (laidAll indent newline before lines) = dense fill lines.flatten := by
  rw [dense_eq_flatMap, dense_eq_flatMap]
  exact flatMap_laidAll (ignoresSpace_dense hindent hnewline fill) before lines

end Line

/-! ## Calls -/

namespace LayoutCall

/-- The lines of a text have its characters, white space apart. -/
theorem dense_ofText (fill : Mark → Text) (text : Text) :
    Line.dense fill (Line.ofText text).flatten = Text.dense text := by
  rw [Line.flatten_ofText, Line.dense_symbols, Text.dense_linesOf]

/-- The lines of a call have the characters of what it prints, white space apart. -/
theorem dense_lines (fill : Mark → Text) (call : LayoutCall) :
    Line.dense fill call.lines.flatten = Text.dense (call.printed fill) := by
  cases call with
  | print text => exact dense_ofText fill text
  | println text =>
    rw [lines, List.flatten_append, Line.dense_append, dense_ofText]
    exact List.append_nil _
  | mark place => exact congrArg Text.dense (List.append_nil (fill place))
  | endLine => rfl

/-- The lines of a run have the characters of all that it prints, white space apart. -/
theorem dense_allLines (fill : Mark → Text) (calls : List LayoutCall) :
    Line.dense fill (allLines calls).flatten = Text.dense (calls.flatMap (printed fill)) := by
  rw [flatten_allLines]
  induction calls with
  | nil => rfl
  | cons call calls ih =>
    rw [List.flatMap_cons, Line.dense_append, dense_lines, ih, List.flatMap_cons,
      Text.dense_append]

end LayoutCall

namespace Layout

/-- What a document says in the end, with the line that has not ended. -/
theorem dense_finish (fill : Mark → Text) (layout : Layout)
    (hindent : ∀ c ∈ layout.indent, Unicode.isBlank c = true) :
    Line.dense fill layout.finish.symbols =
      Line.dense fill layout.document.symbols ++ Line.dense fill layout.line.symbols := by
  have hread := Line.ignoresSpace_dense hindent (fun c hc => absurd hc List.not_mem_nil) fill
  simp only [Line.dense_eq_flatMap]
  exact flatMap_finish hread

theorem isNormal_finish {layout : Layout} (h : layout.IsNormal) : layout.finish.IsNormal := by
  unfold finish
  split
  · exact h.document
  · exact (h.document.pushText _).foldl_push _

/-- But for white space a document says what was printed, in order and with its marks filled in,
whatever they are filled with; and its pieces are in normal form. -/
theorem finish_keeps_printed {indent newline : Text}
    (hindent : ∀ c ∈ indent, Unicode.isBlank c = true)
    (hnewline : ∀ c ∈ newline, Unicode.isBlank c = true) (calls : List LayoutCall)
    (fill : Mark → Text) :
    let document := (run { indent, newline } calls).finish
    Text.dense (document.render fill) = Text.dense (calls.flatMap (LayoutCall.printed fill)) ∧
      document.IsNormal := by
  intro document
  obtain ⟨ended, hended, hlays⟩ := advances_run (isNormal_new indent newline) calls
  -- all lines are laid out but the last one, which is still pending
  have hlines : LayoutCall.allLines calls =
      ended ++ [(run { indent, newline } calls).line.symbols] :=
    (Text.nil_joinEnds (LayoutCall.allLines_ne_nil calls)).symm.trans hended
  refine ⟨?_, isNormal_finish hlays.normal⟩
  calc Text.dense (document.render fill)
      = Line.dense fill document.symbols := by rw [Document.render_eq_symbols]; rfl
    _ = Line.dense fill (Line.laidAll indent newline 0 ended) ++
          Line.dense fill (run { indent, newline } calls).line.symbols := by
        rw [dense_finish fill _ (by rwa [hlays.indent]), hlays.symbols]
        rfl
    _ = Line.dense fill (LayoutCall.allLines calls).flatten := by
        rw [Line.dense_laidAll hindent hnewline, hlines, List.flatten_append, Line.dense_append]
        simp
    _ = Text.dense (calls.flatMap (LayoutCall.printed fill)) := LayoutCall.dense_allLines fill calls

/-- A mark on a line of its own, one between the two halves of a word, carriage returns, blank lines
and a last line that is not ended. -/
theorem finish_keeps_printed_halves :
    let calls : List LayoutCall := [.println "a \x7b\r\n \r\n".toList, .mark .imports, .endLine,
      .print "b".toList, .mark .serial, .print "c  \n\x7d".toList, .print "  d ".toList]
    let fill : Mark → Text := fun
      | .imports => "x y".toList
      | .serial => "7".toList
    let document := (run { indent := ['\t'], newline := "\r\n".toList } calls).finish
    (∀ c ∈ ['\t'], Unicode.isBlank c = true) ∧ (∀ c ∈ "\r\n".toList, Unicode.isBlank c = true) ∧
    document = [.text "a \x7b\r\n\r\n\r\n\t".toList, .mark .imports, .text "\r\n\tb".toList,
      .mark .serial, .text "c\r\n\t\x7d  d ".toList] ∧
    Text.dense (document.render fill) = "a\x7bxyb7c\x7dd".toList ∧
    Text.dense (document.render fill) = Text.dense (calls.flatMap (LayoutCall.printed fill)) ∧
    document.IsNormal := by
  intro calls fill document
  have hindent : ∀ c ∈ ['\t'], Unicode.isBlank c = true := List.all_eq_true.mp (by decide)
  have hnewline : ∀ c ∈ "\r\n".toList, Unicode.isBlank c = true := List.all_eq_true.mp (by decide)
  refine ⟨hindent, hnewline, ?_, ?_, finish_keeps_printed hindent hnewline calls fill⟩
  · decide +kernel
  · decide +kernel

end Layout

end JvmSource
