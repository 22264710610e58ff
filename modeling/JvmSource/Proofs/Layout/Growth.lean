import Mathlib.Data.List.Infix
import Mathlib.Tactic.Common
import JvmSource.Layout.Basic
import JvmSource.Proofs.Layout.Symbols

/-!
# What is laid out stays

Text is only ever added at the end of a document, so what has been laid out at one time is what any
later document starts with. `text_endLine` says what ending a line adds.
-/

namespace JvmSource

namespace Document

variable {document : Document}

theorem text_singleton (text : Text) : Document.text [.text text] = text := List.append_nil text

/-- Pushing a text adds it to the text of the document. -/
theorem text_pushText (document : Document) (text : Text) :
    (document.pushText text).text = document.text ++ text := by
  simp only [text_eq_symbols, symbols_pushText, List.flatMap_append, Text.render_symbols]

/-- Pushing segments adds their text to the text of the document. -/
theorem text_foldl_push (document segments : Document) :
    (segments.foldl push document).text = document.text ++ segments.text := by
  simp only [text_eq_symbols, symbols_foldl_push, List.flatMap_append]

end Document

namespace Layout

/-- The text that is laid out for the current line, without its end. -/
def lineText (layout : Layout) : Text :=
  if isBlankLine layout.line then []
  else Text.times (lineDepth layout.depth layout.line.text) layout.indent ++
    Document.text (trimLine layout.line)

/-- Ending a line adds its text and a line end. -/
theorem text_endLine (layout : Layout) :
    layout.endLine.document.text = layout.document.text ++ (layout.lineText ++ layout.newline) := by
  unfold endLine lineText
  simp only
  rw [Document.text_pushText]
  split
  · rfl
  · rw [Document.text_foldl_push, Document.text_pushText]
    simp only [List.append_assoc]

theorem prefix_endLine (layout : Layout) :
    layout.document.text <+: layout.endLine.document.text := by
  rw [text_endLine]
  exact List.prefix_append _ _

theorem prefix_printLines (layout : Layout) (lines : List Text) :
    layout.document.text <+: (layout.printLines lines).document.text := by
  induction lines generalizing layout with
  | nil => exact List.prefix_refl _
  | cons line lines ih =>
    cases lines with
    | nil => exact List.prefix_refl _
    | cons next lines =>
      rw [printLines]
      · exact (prefix_endLine (layout.add line)).trans (ih (layout.add line).endLine)
      · simp

theorem prefix_print (layout : Layout) (text : Text) :
    layout.document.text <+: (layout.print text).document.text :=
  prefix_printLines layout (Text.split '\n' text)

theorem prefix_println (layout : Layout) (text : Text) :
    layout.document.text <+: (layout.println text).document.text :=
  (prefix_print layout text).trans (prefix_endLine (layout.print text))

/-- Finishing a layout only adds to its text. -/
theorem prefix_finish (layout : Layout) : layout.document.text <+: layout.finish.text := by
  unfold finish
  split
  · exact List.prefix_refl _
  · rw [Document.text_foldl_push, Document.text_pushText, List.append_assoc]
    exact List.prefix_append _ _

end Layout

end JvmSource
